import TokensFlux.Convert.Equiv.ResponsesState

/-!
# Chat streams as Responses streams

`RunInv` is what holds after some parts of a stream: the items are in step with the events that were
sent.
-/

namespace TokensFlux

open List Option

/-! ### The parts of a stream -/

inductive ChunkPart
  | reasoning (delta : String)
  | text (delta : String)
  | toolCall (fragment : ToolCallResponse)
  | finish (finishReason : String)
deriving DecidableEq, Repr

namespace ChunkPart

def ref : ChunkPart → Option ChatToResponsesOutputRef
  | .reasoning _ => some .reasoning
  | .text _ => some .message
  | .toolCall fragment => some (.tool fragment.chatIndex)
  | .finish _ => none

def content : ChunkPart → String
  | .reasoning delta | .text delta => delta
  | .toolCall fragment => fragment.arguments
  | .finish _ => ""

def fragment? : ChunkPart → Option ToolCallResponse
  | .toolCall fragment => some fragment
  | _ => none

end ChunkPart

def ChunkChoice.parts (choice : ChunkChoice) : List ChunkPart :=
  (if choice.delta.getReasoningContent ≠ "" then [.reasoning choice.delta.getReasoningContent]
    else []) ++
  (if choice.delta.getContentString ≠ "" then [.text choice.delta.getContentString] else []) ++
  choice.delta.toolCalls.map .toolCall ++
  ((choice.finishReason.filter (trimSpace · ≠ "")).toList.map .finish)

def ChatChunk.parts (chunk : ChatChunk) : List ChunkPart :=
  chunk.choices.flatMap ChunkChoice.parts

def streamParts (chunks : List ChatChunk) : List ChunkPart :=
  chunks.flatMap ChatChunk.parts

variable (ref : ChatToResponsesOutputRef)

variable (parts : List ChunkPart)

def carried : String :=
  String.join ((parts.filter fun part => part.ref = some ref).map ChunkPart.content)

def firstFragment (chatIndex : ℤ) (parts : List ChunkPart) : Option ToolCallResponse :=
  (parts.filterMap ChunkPart.fragment?).find? (·.chatIndex = chatIndex)

def NoDeltaAfterFinish : Prop :=
  parts.Pairwise fun earlier later => earlier.ref = none → later.ref = none

def IdsInFirstFragments : Prop :=
  ∀ fragment ∈ parts.filterMap ChunkPart.fragment?, trimSpace fragment.id = "" ∨
    (firstFragment fragment.chatIndex parts).map (trimSpace ·.id) = some (trimSpace fragment.id)

theorem carried_concat (part : ChunkPart) :
    carried ref (parts ++ [part]) = carried ref parts ++ if part.ref = some ref
      then part.content else "" := by
  unfold carried
  by_cases h : part.ref = some ref <;> simp [h]

theorem carried_eq_empty {ref : ChatToResponsesOutputRef} {parts : List ChunkPart}
    (h : ∀ part ∈ parts, part.ref ≠ some ref) : carried ref parts = "" := by
  unfold carried
  rw [filter_eq_nil_iff.mpr (by simpa using h)]
  rfl

theorem firstFragment_append {chatIndex : ℤ} {parts : List ChunkPart} {first : ToolCallResponse}
    (h : firstFragment chatIndex parts = some first) (parts' : List ChunkPart) :
    firstFragment chatIndex (parts ++ parts') = some first := by
  unfold firstFragment at h ⊢
  rw [filterMap_append, List.find?_append, h]
  rfl

theorem firstFragment_concat {parts : List ChunkPart} {fragment : ToolCallResponse}
    (h : ∀ part ∈ parts, part.ref ≠ some (.tool fragment.chatIndex)) :
    firstFragment fragment.chatIndex (parts ++ [.toolCall fragment]) = some fragment := by
  have hnone : (parts.filterMap ChunkPart.fragment?).find? (·.chatIndex =
      fragment.chatIndex) = none := by
    rw [List.find?_eq_none]
    intro fragment' hmem heq
    obtain ⟨part, hpart, hfragment⟩ := mem_filterMap.mp hmem
    cases part with
    | toolCall f =>
      obtain rfl : f = fragment' := some.inj hfragment
      exact h _ hpart (by rw [ChunkPart.ref, of_decide_eq_true heq])
    | reasoning | text | finish => cases hfragment
  unfold firstFragment
  rw [filterMap_append, List.find?_append, hnone]
  simp [ChunkPart.fragment?]

namespace ChatToResponsesStreamState

variable {s s' : ChatToResponsesStreamState} {pre : List ChunkPart}
  {log events : List ResponsesStreamResponse}

def convertPart (s : ChatToResponsesStreamState) :
    ChunkPart → ChatToResponsesStreamState × List ResponsesStreamResponse
  | .reasoning delta => s.appendReasoningDelta delta
  | .text delta => s.appendTextDelta delta
  | .toolCall fragment => s.appendToolCallDelta fragment
  | .finish finishReason => (s.applyFinishReason finishReason).doneDeltaEvents

theorem convertChoice_eq (s : ChatToResponsesStreamState) (choice : ChunkChoice) :
    s.convertChoice choice = transduce convertPart s choice.parts := by
  have hif : ∀ (p : Prop) [Decidable p] (part : ChunkPart) (s : ChatToResponsesStreamState),
      transduce convertPart s (if p then [part] else []) = if p then s.convertPart part
        else (s, []) := by
    intro p _ part s
    split_ifs
    · simp only [transduce, append_nil]
    · rfl
  unfold convertChoice ChunkChoice.parts
  simp only [transduce_append, transduce_map, hif]
  cases choice.finishReason with
  | none => rfl
  | some finishReason =>
    by_cases h : trimSpace finishReason = "" <;> simp [h, Option.filter, transduce, convertPart]

/-! ### Runs -/

structure RunInv (pre : List ChunkPart) (s : ChatToResponsesStreamState)
    (log : List ResponsesStreamResponse) : Prop where
  running : s.Running
  logged : s.view.Logged log
  done : ∀ {ref item}, s.item ref = some item → (item.done = true ↔ ∃ part ∈ pre, part.ref = none)
  content : ∀ {ref item}, s.item ref = some item → item.output.payload = carried ref pre
  present : ∀ ref, (∃ item, s.item ref = some item) ↔ ∃ part ∈ pre, part.ref = some ref
  ids : ∀ {chatIndex item}, s.item (.tool chatIndex) = some item → ∃ first,
    firstFragment chatIndex pre = some first ∧
      (trimSpace first.id ≠ "" → item.output.id = trimSpace first.id)

theorem RunInv.payload (h : RunInv pre s log) (ref : ChatToResponsesOutputRef) :
    s.payload ref = carried ref pre := by
  unfold ChatToResponsesStreamState.payload
  cases hitem : s.item ref with
  | some => exact h.content hitem
  | none =>
    refine (carried_eq_empty fun part hpart href => ?_).symm
    obtain ⟨_, hsome⟩ := (h.present ref).mpr ⟨part, hpart, href⟩
    rw [hitem] at hsome
    cases hsome

theorem RunInv.feed {part : ChunkPart} {ref : ChatToResponsesOutputRef} (h : RunInv pre s log)
    (href : part.ref = some ref) (hopen : ∀ part ∈ pre, part.ref ≠ none)
    (hfeeds : Feeds s s' ref part.content events)
    (hid : ∀ {fragment item}, part = .toolCall fragment →
      s'.item (.tool fragment.chatIndex) = some item →
      trimSpace fragment.id ≠ "" → item.output.id = trimSpace fragment.id) :
    RunInv (pre ++ [part]) s' (log ++ events) := by
  obtain ⟨i, output, hself, hpayload, hsame⟩ := hfeeds.fed
  have hcases : ∀ {r item}, s'.item r = some item →
      r = ref ∧ item = ⟨i, output, false⟩ ∨ r ≠ ref ∧ s.item r = some item := by
    intro r item hitem
    by_cases hr : r = ref
    · rw [hr, hself] at hitem
      exact .inl ⟨hr, (some.inj hitem).symm⟩
    · exact .inr ⟨hr, (hfeeds.others hr).symm.trans hitem⟩
  have hnofinish : ¬∃ part' ∈ pre ++ [part], part'.ref = none := by
    rintro ⟨part', hmem, hnone⟩
    rcases mem_append.mp hmem with hmem | hmem
    · exact hopen part' hmem hnone
    · rw [mem_singleton.mp hmem, href] at hnone
      cases hnone
  refine ⟨hfeeds.running, hfeeds.logged h.logged, ?done, ?content, ?present, ?ids⟩
  case done =>
    intro r item hitem
    refine iff_of_false ?_ hnofinish
    rcases hcases hitem with ⟨-, rfl⟩ | ⟨-, hitem⟩
    · exact Bool.false_ne_true
    · rw [h.done hitem]
      rintro ⟨part', hmem, hnone⟩
      exact hopen part' hmem hnone
  case content =>
    intro r item hitem
    rw [carried_concat]
    rcases hcases hitem with ⟨rfl, rfl⟩ | ⟨hr, hitem⟩
    · rw [if_pos href, hpayload, h.payload]
    have hne : part.ref ≠ some r := by
      rw [href]
      exact fun heq => hr (some.inj heq).symm
    rw [if_neg hne, String.append_empty]
    exact h.content hitem
  case present =>
    intro r
    by_cases hr : r = ref
    · subst hr
      exact iff_of_true ⟨_, hself⟩ ⟨part, by simp, href⟩
    · rw [hfeeds.others hr, h.present r]
      simp only [mem_append, mem_singleton, or_and_right, exists_or, exists_eq_left, href,
        Option.some.injEq, Ne.symm hr, or_false]
  case ids =>
    intro chatIndex item hitem
    rcases hcases hitem with ⟨heq, rfl⟩ | ⟨-, hitem⟩
    · cases hold : s.item ref with
      | some =>
        subst heq
        obtain ⟨first, hfirst, hfirstId⟩ := h.ids hold
        refine ⟨first, firstFragment_append hfirst _, fun hblank => ?_⟩
        rw [← hfirstId hblank, hsame hold]
      | none =>
        -- the first fragment of its tool call
        cases part with
        | toolCall fragment =>
          obtain rfl : ref = .tool fragment.chatIndex := (some.inj href).symm
          obtain rfl : chatIndex = fragment.chatIndex := by
            injection heq
          refine ⟨fragment, firstFragment_concat ?_, hid rfl hself⟩
          intro part' hmem href'
          obtain ⟨item, hsome⟩ := (h.present _).mpr ⟨part', hmem, href'⟩
          rw [hold] at hsome
          cases hsome
        | reasoning | text => subst heq; cases href
        | finish => cases href
    · obtain ⟨first, hfirst, hfirstId⟩ := h.ids hitem
      exact ⟨first, firstFragment_append hfirst _, hfirstId⟩

theorem RunInv.finish (h : RunInv pre s log) (finishReason : String) :
    RunInv (pre ++ [.finish finishReason]) (s.convertPart (.finish finishReason)).1
      (log ++ (s.convertPart (.finish finishReason)).2) := by
  have hview : (s.applyFinishReason finishReason).view = s.view := by
    obtain ⟨_, _, heq⟩ := applyFinishReason_eq (s := s) finishReason
    unfold view
    rw [funext (item_applyFinishReason finishReason), heq]
  obtain ⟨_, hcloses, -⟩ := closes_doneDeltaEvents (s := s.applyFinishReason finishReason)
  have hitems : ∀ r, (s.convertPart (.finish finishReason)).1.item r =
      (s.item r).map StreamItem.close := by
    intro r
    rw [convertPart, item_doneDeltaEvents, item_applyFinishReason]
  have hcases : ∀ {r item}, (s.convertPart (.finish finishReason)).1.item r = some item →
      ∃ item₀, s.item r = some item₀ ∧ item = item₀.close := by
    intro r item hitem
    rw [hitems] at hitem
    obtain ⟨item₀, hitem₀, heq⟩ := map_eq_some_iff.mp hitem
    exact ⟨item₀, hitem₀, heq.symm⟩
  refine ⟨?running, ?logged, ?done, ?content, ?present, ?ids⟩
  case running => exact hcloses.running (h.running.applyFinishReason finishReason)
  case logged => exact hcloses.logged (by rw [hview]; exact h.logged)
  case done =>
    intro r item hitem
    obtain ⟨item₀, -, rfl⟩ := hcases hitem
    exact iff_of_true rfl ⟨.finish finishReason, mem_append_right _ mem_cons_self, rfl⟩
  case content =>
    intro r item hitem
    obtain ⟨item₀, hitem₀, rfl⟩ := hcases hitem
    rw [carried_concat, if_neg (by simp [ChunkPart.ref]), String.append_empty, ← h.content hitem₀]
    rfl
  case present =>
    intro r
    have hnone : (ChunkPart.finish finishReason).ref = none := rfl
    simp only [hitems, map_eq_some_iff, mem_append, mem_singleton, or_and_right, exists_or,
      exists_eq_left, hnone, reduceCtorEq, or_false]
    rw [← h.present r]
    simp
  case ids =>
    intro chatIndex item hitem
    obtain ⟨item₀, hitem₀, rfl⟩ := hcases hitem
    obtain ⟨first, hfirst, hfirstId⟩ := h.ids hitem₀
    exact ⟨first, firstFragment_append hfirst _, hfirstId⟩

theorem id_appendToolCallDelta {fragment : ToolCallResponse} {item : StreamItem}
    (hitem : (s.appendToolCallDelta fragment).1.item (.tool fragment.chatIndex) = some item)
    (hblank : trimSpace fragment.id ≠ "") : item.output.id = trimSpace fragment.id := by
  unfold appendToolCallDelta at hitem
  dsimp only [ChatToResponsesStreamState.item] at hitem
  rw [AList.lookup_insert] at hitem
  cases hitem
  dsimp only [toolOutput]
  rw [update_id_of_ne hblank]

variable {parts post : List ChunkPart}

theorem RunInv.convertPart {part : ChunkPart} (hfinish : NoDeltaAfterFinish (pre ++ part :: post))
    (hids : IdsInFirstFragments (pre ++ part :: post)) (h : RunInv pre s log) :
    RunInv (pre ++ [part]) (s.convertPart part).1 (log ++ (s.convertPart part).2) := by
  have hopen : part.ref ≠ none → ∀ part' ∈ pre, part'.ref ≠ none := by
    intro href part' hmem hnone
    exact href ((pairwise_append.mp hfinish).2.2 part' hmem part mem_cons_self hnone)
  have hnotDone : part.ref ≠ none → ∀ ref item, s.item ref = some item → item.done = false := by
    intro href ref item hitem
    rw [Bool.eq_false_iff, ne_eq, h.done hitem]
    rintro ⟨part', hmem, hnone⟩
    exact hopen href part' hmem hnone
  cases part with
  | reasoning delta =>
    exact h.feed rfl (hopen nofun) (feeds_appendReasoningDelta h.running (hnotDone nofun _) delta)
      nofun
  | text delta =>
    exact h.feed rfl (hopen nofun) (feeds_appendTextDelta h.running (hnotDone nofun _) delta) nofun
  | toolCall fragment =>
    refine h.feed rfl (hopen nofun) (feeds_appendToolCallDelta h.running fragment
      (hnotDone nofun _) ?_) ?_
    · intro item hitem
      obtain ⟨_, hfirst, hfirstId⟩ := h.ids hitem
      rcases hids fragment (by simp [ChunkPart.fragment?]) with hblank | heq
      · exact .inl hblank
      rw [firstFragment_append hfirst, map_some, Option.some.injEq] at heq
      by_cases hblank : trimSpace fragment.id = ""
      · exact .inl hblank
      · rw [hfirstId (by rwa [heq]), heq]
        exact .inr rfl
    · intro fragment' item heq hitem hblank
      obtain rfl : fragment = fragment' := by injection heq
      exact id_appendToolCallDelta hitem hblank
  | finish finishReason => exact h.finish finishReason

theorem RunInv.convertParts (hfinish : NoDeltaAfterFinish (pre ++ parts ++ post))
    (hids : IdsInFirstFragments (pre ++ parts ++ post)) (h : RunInv pre s log) :
    RunInv (pre ++ parts) (transduce ChatToResponsesStreamState.convertPart s parts).1
      (log ++ (transduce ChatToResponsesStreamState.convertPart s parts).2) := by
  refine transduce_invariant (fun parts₁ part parts₂ s log heq hinv => ?_) h
  have hsplit : pre ++ parts ++ post = pre ++ parts₁ ++ part :: (parts₂ ++ post) := by
    rw [heq]
    simp
  rw [hsplit] at hfinish hids
  exact hinv.convertPart hfinish hids

/-! ### Chunks -/

theorem convertChoices_eq (s : ChatToResponsesStreamState) (choices : List ChunkChoice) :
    transduce convertChoice s choices =
      transduce convertPart s (choices.flatMap ChunkChoice.parts) := by
  induction choices generalizing s with
  | nil => rfl
  | cons _ _ ih => simp only [transduce, flatMap_cons, transduce_append, convertChoice_eq, ih]

theorem RunInv.startChunk (h : RunInv pre s log) (chunk : ChatChunk) :
    RunInv pre (s.startChunk chunk).1 log ∧ (s.startChunk chunk).2 = [] := by
  obtain ⟨model, created, usage, heq⟩ : ∃ model created usage,
      s.startChunk chunk = ({ s with model, created, usage }, []) := by
    unfold ChatToResponsesStreamState.startChunk
    rw [if_neg h.running.id, if_pos h.running.sentCreated]
    exact ⟨_, _, _, rfl⟩
  rw [heq]
  exact ⟨⟨{ h.running with }, h.logged, h.done, h.content, h.present, h.ids⟩, rfl⟩

theorem chunkEvents_eq (s : ChatToResponsesStreamState) (chunk : ChatChunk) :
    s.chatCompletionsStreamChunkToResponsesEvents chunk =
      ((transduce convertPart (s.startChunk chunk).1 chunk.parts).1,
        (s.startChunk chunk).2 ++
          (transduce convertPart (s.startChunk chunk).1 chunk.parts).2) := by
  unfold chatCompletionsStreamChunkToResponsesEvents
  dsimp only
  rw [convertChoices_eq]
  rfl

theorem RunInv.convertChunk {chunk : ChatChunk}
    (hfinish : NoDeltaAfterFinish (pre ++ chunk.parts ++ post))
    (hids : IdsInFirstFragments (pre ++ chunk.parts ++ post)) (h : RunInv pre s log) :
    RunInv (pre ++ chunk.parts) (s.chatCompletionsStreamChunkToResponsesEvents chunk).1
      (log ++ (s.chatCompletionsStreamChunkToResponsesEvents chunk).2) := by
  obtain ⟨hstart, hnone⟩ := h.startChunk chunk
  rw [chunkEvents_eq, hnone]
  exact hstart.convertParts hfinish hids

theorem RunInv.convertChunks {pre : List ChatChunk} (chunks : List ChatChunk)
    (hfinish : NoDeltaAfterFinish (streamParts (pre ++ chunks)))
    (hids : IdsInFirstFragments (streamParts (pre ++ chunks)))
    (h : RunInv (streamParts pre) s log) :
    RunInv (streamParts (pre ++ chunks))
    (transduce chatCompletionsStreamChunkToResponsesEvents s chunks).1
      (log ++ (transduce chatCompletionsStreamChunkToResponsesEvents s chunks).2) := by
  refine transduce_invariant (P := fun pre => RunInv (streamParts pre))
    (fun chunks₁ chunk chunks₂ s log heq hinv => ?_) h
  have hsplit : streamParts (pre ++ chunks) =
      streamParts (pre ++ chunks₁) ++ chunk.parts ++ streamParts chunks₂ := by
    rw [heq]
    simp [streamParts]
  rw [hsplit] at hfinish hids
  have hlast : streamParts (pre ++ chunks₁ ++ [chunk]) =
      streamParts (pre ++ chunks₁) ++ chunk.parts := by
    simp [streamParts]
  rw [hlast]
  exact hinv.convertChunk hfinish hids

end ChatToResponsesStreamState

/-! ### Whole streams -/

/-- The response is created, items are sent, and a terminal event shows all of them. -/
structure IsResponsesStream (parts : List ChunkPart) (created : ResponsesStreamResponse)
    (body : List ResponsesStreamResponse) (terminal : ResponsesStreamResponse)
    (response : OpenAIResponsesResponse) : Prop where
  starts : created.type = .created
  ends : terminal.type = .completed ∨ terminal.type = .incomplete
  shows : terminal.response = some response
  indexed : ∀ e ∈ body, e.type.isLifecycle = false ∧ ∃ i < response.output.length,
    e.outputIndex = some (i : ℤ)
  /-- They hold what the deltas carry. -/
  items : ∀ (i : ℕ) (item : ResponsesOutput), response.output[i]? = some item →
    ClosedEvents item (lane (·.outputIndex) (i : ℤ) body)
  complete : ∃ refs : List ChatToResponsesOutputRef,
    refs.Nodup ∧ refs.length = response.output.length ∧
    (∀ ref, ref ∈ refs ↔ ∃ part ∈ parts, part.ref = some ref) ∧
    ∀ (i : ℕ) (ref : ChatToResponsesOutputRef) (item : ResponsesOutput), refs[i]? = some ref →
      response.output[i]? = some item → item.type = ref.type ∧ item.payload = carried ref parts

namespace ChatToResponsesStreamState

variable {s : ChatToResponsesStreamState} {parts : List ChunkPart}
  {log : List ResponsesStreamResponse}

theorem runInv_startChunk {id : String} {chunk : ChatChunk}
    (hid : (if id = "" then chunk.id else id) ≠ "") (model : String) (created : ℤ) :
    let started := (newChatToResponsesStreamState id model created).startChunk chunk
    ∃ e : ResponsesStreamResponse, e.type = .created ∧ started.2 = [e] ∧
      RunInv [] started.1 [] := by
  intro started
  refine ⟨_, rfl, rfl, ?_⟩
  have hitem : ∀ ref, started.1.item ref = none := by
    intro ref
    cases ref <;> rfl
  have hnone : ∀ {ref item} {P : Prop}, started.1.item ref = some item → P := by
    intro ref item P h
    rw [hitem] at h
    cases h
  refine ⟨⟨rfl, fun _ => ⟨rfl, rfl⟩, fun _ => ⟨rfl, rfl⟩, rfl, hid, rfl⟩,
    ⟨hnone, ?_, hnone, hnone, ?_⟩, hnone, hnone,
    fun ref => ?_, hnone⟩
  · intro i ref h
    cases h
  · exact forall_mem_nil _
  · simp [hitem]

theorem forall₂_output (h : s.view.Logged log) (status : String) :
    List.Forall₂ (fun ref output => ∃ item, s.item ref = some item ∧
      output = { item.output with status })
      s.outputOrder (s.outputOrder.filterMap (s.finalOutput status)) := by
  have hsome : ∀ ref ∈ s.outputOrder, ∃ item, s.item ref = some item := by
    intro ref hmem
    obtain ⟨i, hi⟩ := mem_iff_getElem?.mp hmem
    obtain ⟨item, hitem, -⟩ := h.filled hi
    exact ⟨item, hitem⟩
  generalize s.outputOrder = refs at hsome ⊢
  induction refs with
  | nil => exact .nil
  | cons ref _ ih =>
    obtain ⟨item, hitem⟩ := hsome ref mem_cons_self
    rw [filterMap_cons_some (s.item_eq_some_finalOutput hitem status)]
    exact .cons ⟨item, hitem, rfl⟩ (ih fun ref hmem => hsome ref (mem_cons_of_mem _ hmem))

theorem isResponsesStream_of_closed {created terminal : ResponsesStreamResponse} {status : String}
    {response : OpenAIResponsesResponse} (h : s.view.Logged log)
    (hitems : ∀ ref item, s.item ref = some item → item.done = true ∧
      item.output.payload = carried ref parts)
    (hpresent : ∀ ref, (∃ item, s.item ref = some item) ↔ ∃ part ∈ parts, part.ref = some ref)
    (hcreated : created.type = .created)
    (hterminal : terminal.type = .completed ∨ terminal.type = .incomplete)
    (hresponse : terminal.response = some response)
    (houtput : response.output = s.outputOrder.filterMap (s.finalOutput status)) :
    IsResponsesStream parts created log terminal response := by
  obtain ⟨hlength, hget⟩ := forall₂_iff_get.mp (forall₂_output h status)
  rw [← houtput] at hlength
  have hshown : ∀ {i : ℕ} {ref output}, s.outputOrder[i]? = some ref →
      response.output[i]? = some output →
      ∃ item, s.item ref = some item ∧ item.index = i ∧ output = { item.output with status } := by
    intro i ref output hi hi'
    obtain ⟨item, hitem, hindex⟩ := h.filled hi
    rw [houtput] at hi'
    obtain ⟨hlt, rfl⟩ := List.getElem?_eq_some_iff.mp hi
    obtain ⟨hlt', rfl⟩ := List.getElem?_eq_some_iff.mp hi'
    obtain ⟨item', hitem', heq⟩ := hget i hlt hlt'
    obtain rfl : item = item' := some.inj (hitem.symm.trans hitem')
    exact ⟨item, hitem, hindex, heq⟩
  refine ⟨hcreated, hterminal, hresponse, ?_, ?_, s.outputOrder, h.nodup, hlength, ?_, ?_⟩
  · rw [← hlength]
    exact h.body
  · intro i output hi
    have hlt : i < s.outputOrder.length := hlength ▸ (List.getElem?_eq_some_iff.mp hi).1
    obtain ⟨item, hitem, hindex, rfl⟩ := hshown (List.getElem?_eq_getElem hlt) hi
    have hevents := h.events hitem
    rw [(hitems _ _ hitem).1, hindex] at hevents
    exact ClosedEvents.withStatus hevents status
  · intro ref
    rw [← hpresent ref]
    constructor
    · intro hmem
      obtain ⟨i, hi⟩ := mem_iff_getElem?.mp hmem
      obtain ⟨item, hitem, -⟩ := h.filled hi
      exact ⟨item, hitem⟩
    · rintro ⟨item, hitem⟩
      obtain ⟨i, -, hi⟩ := h.slot hitem
      exact mem_of_getElem? hi
  · intro i ref output hi hi'
    obtain ⟨item, hitem, -, rfl⟩ := hshown hi hi'
    exact ⟨h.type hitem, (hitems _ _ hitem).2⟩

theorem output_finalResponse (s : ChatToResponsesStreamState) :
    { s with finalized := true }.finalResponse.output =
      s.outputOrder.filterMap (s.finalOutput s.outputStatus) := by
  rfl

theorem RunInv.isResponsesStream (h : RunInv parts s log) {created : ResponsesStreamResponse}
    (hcreated : created.type = .created) :
    ∃ body terminal response, log ++ s.finalizeChatCompletionsStreamToResponses.2 =
      body ++ [terminal] ∧ IsResponsesStream parts created body terminal response := by
  obtain ⟨_, hcloses, -⟩ := closes_doneDeltaEvents (s := s)
  have hitems : ∀ ref item, s.doneDeltaEvents.1.item ref = some item →
      item.done = true ∧ item.output.payload = carried ref parts := by
    intro ref item hitem
    rw [item_doneDeltaEvents] at hitem
    obtain ⟨_, hitem₀, rfl⟩ := map_eq_some_iff.mp hitem
    exact ⟨rfl, (h.content hitem₀ :)⟩
  have hpresent : ∀ ref, (∃ item, s.doneDeltaEvents.1.item ref = some item) ↔ ∃ part ∈ parts,
      part.ref = some ref := by
    intro ref
    rw [← h.present ref, item_doneDeltaEvents]
    simp [map_eq_some_iff]
  unfold finalizeChatCompletionsStreamToResponses
  rw [if_neg (by simp [h.running.finalized])]
  refine ⟨_, _, _, (append_assoc ..).symm,
    isResponsesStream_of_closed (hcloses.logged h.logged) hitems hpresent hcreated ?_ rfl
      (output_finalResponse _)⟩
  split_ifs
  · exact .inr rfl
  · exact .inl rfl

theorem finalize_finalize (s : ChatToResponsesStreamState) :
    s.finalizeChatCompletionsStreamToResponses.1.finalizeChatCompletionsStreamToResponses.2 =
      [] := by
  have hfinalized : s.finalizeChatCompletionsStreamToResponses.1.finalized = true := by
    unfold finalizeChatCompletionsStreamToResponses
    split_ifs with h
    · exact h
    · rfl
  rw [finalizeChatCompletionsStreamToResponses, if_pos hfinalized]

/-- **A converted chat stream is well formed and complete.** -/
theorem convertStream_isResponsesStream (id model : String) (created : ℤ) (chunk : ChatChunk)
    (chunks : List ChatChunk) (hid : (if id = "" then chunk.id else id) ≠ "")
    (hfinish : NoDeltaAfterFinish (streamParts (chunk :: chunks)))
    (hids : IdsInFirstFragments (streamParts (chunk :: chunks))) :
    (∃ createdEvent body terminal response,
      ((newChatToResponsesStreamState id model created).convertStream (chunk :: chunks)).2 =
        createdEvent :: body ++ [terminal] ∧
      IsResponsesStream (streamParts (chunk :: chunks)) createdEvent body terminal response) ∧
    ((newChatToResponsesStreamState id model created).convertStream
      (chunk :: chunks)).1.finalizeChatCompletionsStreamToResponses.2 = [] := by
  obtain ⟨e, he, hevents, hstart⟩ := runInv_startChunk hid model created
  have hparts : streamParts (chunk :: chunks) = [] ++ chunk.parts ++ streamParts chunks := by
    rfl
  have hfirst := hstart.convertParts (hparts ▸ hfinish) (hparts ▸ hids)
  have hchunk : streamParts [chunk] = [] ++ chunk.parts := by
    simp [streamParts]
  rw [← hchunk] at hfirst
  have hrun := RunInv.convertChunks chunks hfinish hids hfirst
  constructor
  · obtain ⟨body, terminal, response, heq, hstream⟩ := hrun.isResponsesStream he
    refine ⟨e, body, terminal, response, ?_, hstream⟩
    rw [cons_append, ← heq]
    unfold convertStream
    simp only [transduce, chunkEvents_eq, hevents, cons_append, nil_append]
  · exact finalize_finalize _

def weatherChunks : List ChatChunk :=
  [{ id := "chatcmpl-1",
     choices := [{ delta := { reasoningContent := some "hm", content := some "Let me " } }] },
   { id := "chatcmpl-1", choices :=
      [{ delta := { content := some "see.",
                    toolCalls := [{ index := some 1, id := "call_1", name := "weather" }] } }] },
   { id := "chatcmpl-1", choices :=
      [{ delta := { toolCalls := [{ index := some 1, arguments := "[]" }] },
         finishReason := some "tool_calls" }] },
   { id := "chatcmpl-1", usage := some { promptTokens := 3, completionTokens := 9 } }]

theorem convertStream_weatherChunks_isResponsesStream : ∃ createdEvent body terminal response,
    ((newChatToResponsesStreamState "" "m" 0).convertStream weatherChunks).2 =
      createdEvent :: body ++ [terminal] ∧
    IsResponsesStream (streamParts weatherChunks) createdEvent body terminal response :=
  (convertStream_isResponsesStream "" "m" 0 _ _ (by decide)
    (by unfold NoDeltaAfterFinish; decide +kernel)
    (by unfold IdsInFirstFragments; decide +kernel)).1

end ChatToResponsesStreamState

end TokensFlux
