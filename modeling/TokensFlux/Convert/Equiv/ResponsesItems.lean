import TokensFlux.Convert.Responses

/-!
# The items of a Responses stream

An item is added, filled by deltas and closed under one id, and holds what the deltas carried
(`ItemEvents`).
-/

namespace TokensFlux

open List Option OutputType

/-! ### The events of one item -/

def ResponsesOutput.payload (output : ResponsesOutput) : String :=
  match output.type with
  | .functionCall | .customToolCall => output.argumentsString
  | _ => String.join (output.content.map (·.text))

def OutputType.deltaType : OutputType → ResponsesEventType
  | .message => .outputTextDelta
  | .reasoning => .reasoningSummaryDelta
  | .functionCall => .functionArgsDelta
  | .customToolCall => .customToolInputDelta
  | .other type => .other type

def OutputType.deltaDoneType : OutputType → ResponsesEventType
  | .message => .outputTextDone
  | .reasoning => .reasoningSummaryDone
  | .functionCall => .functionArgsDone
  | .customToolCall => .customToolInputDone
  | .other type => .other type

def ResponsesEventType.isLifecycle : ResponsesEventType → Bool
  | .created | .completed | .done | .incomplete | .failed | .error => true
  | _ => false

theorem OutputType.isLifecycle_deltaType (type : OutputType) :
    type.deltaType.isLifecycle = false := by
  cases type <;> rfl

theorem OutputType.isLifecycle_deltaDoneType (type : OutputType) :
    type.deltaDoneType.isLifecycle = false := by
  cases type <;> rfl

namespace ResponsesStreamResponse

variable (e : ResponsesStreamResponse)

variable (item : ResponsesOutput)

def Adds : Prop :=
  e.type = .outputItemAdded ∧ ∃ shown, e.item = some shown ∧ shown.type = item.type ∧
    shown.id = item.id

def Fills : Prop :=
  e.type = item.type.deltaType ∧ e.itemID = item.id

def EndsDeltas : Prop :=
  e.type = item.type.deltaDoneType ∧ e.itemID = item.id

def Ends : Prop :=
  e.type = .outputItemDone ∧ ∃ status, e.item = some { item with status }

end ResponsesStreamResponse

def deltaContent (events : List ResponsesStreamResponse) : String :=
  String.join (events.map (·.delta))

def OpenEvents (item : ResponsesOutput) (events : List ResponsesStreamResponse) : Prop :=
  ∃ added deltas, events = added :: deltas ∧ added.Adds item ∧ (∀ e ∈ deltas, e.Fills item) ∧
    deltaContent deltas = item.payload

def ClosedEvents (item : ResponsesOutput) (events : List ResponsesStreamResponse) : Prop :=
  ∃ opened deltasDone done, events = opened ++ [deltasDone, done] ∧ OpenEvents item opened ∧
    deltasDone.EndsDeltas item ∧ done.Ends item

def ItemEvents (item : ResponsesOutput) : Bool → List ResponsesStreamResponse → Prop
  | false, events => OpenEvents item events
  | true, events => ClosedEvents item events

theorem OpenEvents.fill {item item' : ResponsesOutput}
    {events deltas : List ResponsesStreamResponse}
    (h : OpenEvents item events) (htype : item'.type = item.type) (hid : item'.id = item.id)
    (hpayload : item'.payload = item.payload ++ deltaContent deltas)
    (hdeltas : ∀ e ∈ deltas, e.Fills item) :
    OpenEvents item' (events ++ deltas) := by
  obtain ⟨added, deltas₀, rfl, ⟨hadded, shown, hshown, hshownType, hshownId⟩, hfills, hcontent⟩ := h
  refine ⟨added, deltas₀ ++ deltas, rfl, ⟨hadded, shown, hshown, ?_, ?_⟩, ?_, ?_⟩
  · rw [hshownType, htype]
  · rw [hshownId, hid]
  · intro e he
    unfold ResponsesStreamResponse.Fills at hfills hdeltas ⊢
    rw [htype, hid]
    exact (mem_append.mp he).elim (hfills e) (hdeltas e)
  · rw [hpayload, ← hcontent]
    unfold deltaContent
    rw [map_append, String.join_append]

theorem ClosedEvents.withStatus {item : ResponsesOutput} {events : List ResponsesStreamResponse}
    (h : ClosedEvents item events) (status : String) : ClosedEvents { item with status } events := h

/-! ### The items -/

structure StreamItem where
  index : ℤ
  output : ResponsesOutput
  done : Bool
deriving DecidableEq, Repr

def StreamItem.close (item : StreamItem) : StreamItem := { item with done := true }

def ChatToResponsesOutputRef.type : ChatToResponsesOutputRef → OutputType
  | .message => .message
  | .reasoning => .reasoning
  | .tool _ => .functionCall

structure OutputView where
  order : List ChatToResponsesOutputRef
  item : ChatToResponsesOutputRef → Option StreamItem

namespace OutputView

variable (v : OutputView) (ref : ChatToResponsesOutputRef)

def add (output : ResponsesOutput) : OutputView where
  order := v.order ++ [ref]
  item := Function.update v.item ref (some ⟨v.order.length, output, false⟩)

def set (item : StreamItem) : OutputView :=
  { v with item := Function.update v.item ref (some item) }

@[simp] theorem add_order (output : ResponsesOutput) :
    (v.add ref output).order = v.order ++ [ref] := rfl

variable {ref' : ChatToResponsesOutputRef} {output : ResponsesOutput} {item item' : StreamItem}

theorem add_item_eq_some : (v.add ref output).item ref' = some item ↔
      ref' = ref ∧ item = ⟨v.order.length, output, false⟩ ∨ ref' ≠ ref ∧
      v.item ref' = some item := by
  by_cases hne : ref' = ref
  · simp [add, hne, eq_comm]
  · simp [add, hne]

theorem set_item_eq_some : (v.set ref item).item ref' = some item' ↔
      ref' = ref ∧ item' = item ∨ ref' ≠ ref ∧ v.item ref' = some item' := by
  by_cases hne : ref' = ref
  · simp [set, hne, eq_comm]
  · simp [set, hne]

structure Logged (v : OutputView) (log : List ResponsesStreamResponse) : Prop where
  slot : ∀ {ref item}, v.item ref = some item → ∃ i : ℕ, item.index = i ∧ v.order[i]? = some ref
  filled : ∀ {i : ℕ} {ref}, v.order[i]? = some ref → ∃ item, v.item ref = some item ∧ item.index = i
  type : ∀ {ref item}, v.item ref = some item → item.output.type = ref.type
  events : ∀ {ref item}, v.item ref = some item →
    ItemEvents item.output item.done (lane (·.outputIndex) item.index log)
  body : ∀ e ∈ log, e.type.isLifecycle = false ∧ ∃ i < v.order.length, e.outputIndex = some (i : ℤ)

variable {v ref} {log events : List ResponsesStreamResponse}

theorem Logged.nodup (h : v.Logged log) : v.order.Nodup := by
  rw [nodup_iff_getElem?_ne_getElem?]
  intro i j hij hj heq
  obtain ⟨item, hitem, hi⟩ := h.filled (heq.trans (getElem?_eq_getElem hj))
  obtain ⟨item', hitem', _⟩ := h.filled (getElem?_eq_getElem hj)
  have hsame : item = item' := some.inj (hitem.symm.trans hitem')
  subst hsame
  omega

theorem Logged.index_ne (h : v.Logged log) (hitem : v.item ref = some item)
    (hitem' : v.item ref' = some item') (hne : ref' ≠ ref) : item'.index ≠ item.index := by
  intro hindex
  obtain ⟨i, hi, hslot⟩ := h.slot hitem
  obtain ⟨j, hj, hslot'⟩ := h.slot hitem'
  obtain rfl : i = j := by omega
  exact hne (some.inj (hslot'.symm.trans hslot))

theorem Logged.add (h : v.Logged log) (hnew : v.item ref = none) {e : ResponsesStreamResponse}
    (htype : output.type = ref.type) (hpayload : output.payload = "")
    (hindex : e.outputIndex = some (v.order.length : ℤ)) (hadds : e.Adds output) :
    (v.add ref output).Logged (log ++ [e]) := by
  have hfresh : lane (·.outputIndex) (v.order.length : ℤ) log = [] := by
    apply lane_eq_nil
    intro e he heq
    obtain ⟨-, i, hi, hindex⟩ := h.body e he
    rw [hindex, Option.some.injEq] at heq
    omega
  refine ⟨?slot, ?filled, ?type, ?events, ?body⟩
  case slot =>
    intro ref' item hitem
    rcases (add_item_eq_some ..).mp hitem with ⟨rfl, rfl⟩ | ⟨-, hitem⟩
    · exact ⟨v.order.length, rfl, List.getElem?_concat_length⟩
    · obtain ⟨i, hi, hslot⟩ := h.slot hitem
      refine ⟨i, hi, ?_⟩
      rwa [add_order, List.getElem?_append_left (List.getElem?_eq_some_iff.mp hslot).1]
  case filled =>
    intro i ref' hslot
    rw [add_order] at hslot
    by_cases hi : i < v.order.length
    · rw [List.getElem?_append_left hi] at hslot
      obtain ⟨item, hitem, hindex⟩ := h.filled hslot
      have hne : ref' ≠ ref := by
        rintro rfl
        rw [hnew] at hitem
        cases hitem
      exact ⟨item, (add_item_eq_some ..).mpr (.inr ⟨hne, hitem⟩), hindex⟩
    have hi' : i = v.order.length := by
      have := (List.getElem?_eq_some_iff.mp hslot).1
      rw [length_append, length_singleton] at this
      omega
    subst hi'
    rw [List.getElem?_concat_length, Option.some.injEq] at hslot
    exact ⟨_, (add_item_eq_some ..).mpr (.inl ⟨hslot.symm, rfl⟩), rfl⟩
  case type =>
    intro ref' item hitem
    rcases (add_item_eq_some ..).mp hitem with ⟨rfl, rfl⟩ | ⟨-, hitem⟩
    · exact htype
    · exact h.type hitem
  case events =>
    intro ref' item hitem
    rcases (add_item_eq_some ..).mp hitem with ⟨rfl, rfl⟩ | ⟨-, hitem⟩
    · rw [lane_append, hfresh, lane_eq_self (by simpa using hindex)]
      exact ⟨e, [], rfl, hadds, forall_mem_nil _, hpayload.symm⟩
    obtain ⟨i, hi, hslot⟩ := h.slot hitem
    have hlt := (List.getElem?_eq_some_iff.mp hslot).1
    have hother : lane (·.outputIndex) item.index [e] = [] := by
      apply lane_eq_nil
      intro e' he' heq
      rw [mem_singleton.mp he', hindex, Option.some.injEq] at heq
      omega
    rw [lane_append, hother, append_nil]
    exact h.events hitem
  case body =>
    intro e' he'
    rw [add_order, length_append, length_singleton]
    rcases mem_append.mp he' with he' | he'
    · obtain ⟨htype, i, hi, hindex⟩ := h.body e' he'
      exact ⟨htype, i, by omega, hindex⟩
    · rw [mem_singleton.mp he']
      exact ⟨by rw [hadds.1]; rfl, v.order.length, by omega, hindex⟩

theorem Logged.set (h : v.Logged log) (hitem : v.item ref = some item)
    (hindex : item'.index = item.index) (htype : item'.output.type = item.output.type)
    (hbody : ∀ e ∈ events, e.type.isLifecycle = false ∧ e.outputIndex = some item.index)
    (hevents : ItemEvents item'.output item'.done (lane (·.outputIndex) item.index log ++ events)) :
    (v.set ref item').Logged (log ++ events) := by
  have hself : lane (·.outputIndex) item.index events = events :=
    lane_eq_self fun e he => (hbody e he).2
  refine ⟨?slot, ?filled, ?type, ?events, ?body⟩
  case slot =>
    intro ref' item₀ hitem₀
    rcases (set_item_eq_some ..).mp hitem₀ with ⟨rfl, rfl⟩ | ⟨-, hitem₀⟩
    · rw [hindex]
      exact h.slot hitem
    · exact h.slot hitem₀
  case filled =>
    intro i ref' hslot
    obtain ⟨item₀, hitem₀, hi⟩ := h.filled hslot
    by_cases hne : ref' = ref
    · subst hne
      obtain rfl : item₀ = item := some.inj (hitem₀.symm.trans hitem)
      exact ⟨item', (set_item_eq_some ..).mpr (.inl ⟨rfl, rfl⟩), hindex.trans hi⟩
    · exact ⟨item₀, (set_item_eq_some ..).mpr (.inr ⟨hne, hitem₀⟩), hi⟩
  case type =>
    intro ref' item₀ hitem₀
    rcases (set_item_eq_some ..).mp hitem₀ with ⟨rfl, rfl⟩ | ⟨-, hitem₀⟩
    · rw [htype, h.type hitem]
    · exact h.type hitem₀
  case events =>
    intro ref' item₀ hitem₀
    rcases (set_item_eq_some ..).mp hitem₀ with ⟨rfl, rfl⟩ | ⟨hne, hitem₀⟩
    · rwa [hindex, lane_append, hself]
    have hother : lane (·.outputIndex) item₀.index events = [] := by
      apply lane_eq_nil
      intro e he heq
      rw [(hbody e he).2, Option.some.injEq] at heq
      exact h.index_ne hitem hitem₀ hne heq.symm
    rw [lane_append, hother, append_nil]
    exact h.events hitem₀
  case body =>
    intro e he
    rcases mem_append.mp he with he | he
    · exact h.body e he
    · obtain ⟨i, hi, hslot⟩ := h.slot hitem
      exact ⟨(hbody e he).1, i, (List.getElem?_eq_some_iff.mp hslot).1, by rw [(hbody e he).2, hi]⟩

theorem Logged.fill (h : v.Logged log) {i : ℤ} {output' : ResponsesOutput}
    (hitem : v.item ref = some ⟨i, output, false⟩) (htype : output'.type = output.type)
    (hid : output'.id = output.id)
    (hpayload : output'.payload = output.payload ++ deltaContent events)
    (hfills : ∀ e ∈ events, e.Fills output ∧ e.outputIndex = some i) :
    (v.set ref ⟨i, output', false⟩).Logged (log ++ events) := by
  refine h.set hitem rfl htype (fun e he => ⟨?_, (hfills e he).2⟩) ?_
  · rw [(hfills e he).1.1]
    exact isLifecycle_deltaType _
  · exact OpenEvents.fill (h.events hitem) htype hid hpayload fun e he => (hfills e he).1

theorem Logged.close (h : v.Logged log) {i : ℤ} (hitem : v.item ref = some ⟨i, output, false⟩)
    {deltasDone done : ResponsesStreamResponse} (hdeltasDone : deltasDone.EndsDeltas output)
    (hdone : done.Ends output) (hindex : deltasDone.outputIndex = some i)
    (hindex' : done.outputIndex = some i) :
    (v.set ref ⟨i, output, true⟩).Logged (log ++ [deltasDone, done]) := by
  refine h.set hitem rfl rfl (fun e he => ?_) ⟨_, deltasDone, done, rfl, h.events hitem,
    hdeltasDone, hdone⟩
  rcases mem_pair.mp he with rfl | rfl
  · exact ⟨by rw [hdeltasDone.1]; exact isLifecycle_deltaDoneType _, hindex⟩
  · exact ⟨by rw [hdone.1]; rfl, hindex'⟩

end OutputView

end TokensFlux
