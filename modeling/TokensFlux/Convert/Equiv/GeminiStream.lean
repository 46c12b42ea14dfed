import Mathlib.Data.List.Dedup
import TokensFlux.Convert.Equiv.ChatTools
import TokensFlux.Convert.GeminiRequest

/-!
# The function calls of a Gemini stream

Each fragment of a tool call becomes a function call of its own, so they are the tool calls if and
only if every tool call comes in one fragment.
-/

namespace TokensFlux

open List

variable (unmarshal : String → Option Json)

def functionCalls (responses : List GeminiChatResponse) : List GeminiFunctionCall :=
  responses.flatMap fun response => response.candidates.flatMap fun c =>
    c.content.parts.filterMap (·.functionCall)

/-- The name is in the first fragment. -/
def wholeCall (fragments : List ToolCallResponse) (index : Option ℤ) : GeminiFunctionCall :=
  let own := fragments.filter (·.index = index)
  ⟨(own.head?.map (·.name)).getD "",
   functionCallArgs unmarshal (String.join (own.map (·.arguments)))⟩

def wholeCalls (fragments : List ToolCallResponse) : List GeminiFunctionCall :=
  (fragments.map (·.index)).dedup.map (wholeCall unmarshal fragments)

variable {unmarshal} {fragments : List ToolCallResponse}

theorem functionCalls_choice (choice : ChunkChoice) :
    (choice.toGemini unmarshal).content.parts.filterMap (·.functionCall)
    = choice.delta.toolCalls.map (·.toGemini unmarshal) := by
  unfold ChunkChoice.toGemini
  split_ifs with htools htext
  · rw [filterMap_map]
    exact congrFun filterMap_eq_map _
  · rw [not_not.mp htools]
    rfl
  · rw [not_not.mp htools]
    rfl

theorem functionCalls_chunk (estimate : ℤ) (chunk : ChatChunk) :
    functionCalls (streamResponseOpenAI2Gemini unmarshal estimate chunk).toList
      = (toolFragments [chunk]).map (·.toGemini unmarshal) := by
  unfold streamResponseOpenAI2Gemini toolFragments
  dsimp only
  split_ifs with hskip
  · -- A chunk with a tool call is not skipped.
    have hnone : ∀ c ∈ chunk.choices, c.delta.toolCalls = [] := by
      intro c hc
      simp only [Bool.and_eq_true, Bool.not_eq_true', any_eq_false, Bool.or_eq_true,
        decide_eq_true_eq, not_or, not_not] at hskip
      exact (hskip.1 c hc).2
    rw [flatMap_singleton, flatMap_eq_nil_iff.mpr hnone]
    rfl
  · simp [functionCalls, flatMap_map, map_flatMap, functionCalls_choice]

theorem functionCalls_stream (estimate : ℤ) (chunks : List ChatChunk) :
    functionCalls (chunks.filterMap (streamResponseOpenAI2Gemini unmarshal estimate))
      = (toolFragments chunks).map (·.toGemini unmarshal) := by
  induction chunks with
  | nil => rfl
  | cons chunk chunks ih =>
    have hsplit : (chunk :: chunks).filterMap (streamResponseOpenAI2Gemini unmarshal estimate) =
        (streamResponseOpenAI2Gemini unmarshal estimate chunk).toList ++
          chunks.filterMap (streamResponseOpenAI2Gemini unmarshal estimate) := by
      rw [filterMap_cons]
      cases streamResponseOpenAI2Gemini unmarshal estimate chunk <;> rfl
    rw [hsplit, functionCalls, flatMap_append, ← functionCalls, ← functionCalls,
      functionCalls_chunk, ih, ← map_append, ← toolFragments_append]
    rfl

theorem wholeCalls_of_nodup (h : (fragments.map (·.index)).Nodup) :
    wholeCalls unmarshal fragments = fragments.map (·.toGemini unmarshal) := by
  rw [wholeCalls, h.dedup, map_map]
  refine map_congr_left fun f hf => ?_
  have hown : fragments.filter (·.index = f.index) = [f] := by
    have heq : fragments.filter (·.index = f.index) = fragments.filter (· == f) :=
      filter_congr fun g hg => decide_eq_decide.mpr
        ⟨fun hindex => inj_on_of_nodup_map h hg hf hindex, congrArg _⟩
    rw [heq, filter_beq, count_eq_one_of_mem (h.of_map _) hf]
    rfl
  simp [wholeCall, hown, ToolCallResponse.toGemini]

/-- **The function calls are the tool calls** if and only if each of these comes in one fragment. -/
theorem functionCalls_whole_iff (estimate : ℤ) (chunks : List ChatChunk) :
    functionCalls (chunks.filterMap (streamResponseOpenAI2Gemini unmarshal estimate)) ~
        wholeCalls unmarshal (toolFragments chunks) ↔
      ((toolFragments chunks).map (·.index)).Nodup := by
  rw [functionCalls_stream]
  constructor
  · intro h
    have hlength := h.length_eq
    rw [length_map, wholeCalls, length_map, ← length_map] at hlength
    exact dedup_eq_self.mp ((dedup_sublist _).eq_of_length hlength.symm)
  · intro h
    rw [wholeCalls_of_nodup h]

def ChatChunk.fragment (name arguments : String) : ChatChunk :=
  { choices := [{ delta := { toolCalls := [{ index := some 0, name, arguments }] } }] }

/-- The arguments of one call in two fragments. -/
theorem functionCalls_two_fragments :
    let chunks := [ChatChunk.fragment "f" "\x7b\"a\":", .fragment "" "1\x7d"]
    (functionCalls (chunks.filterMap (streamResponseOpenAI2Gemini (fun _ => none) 0))).map
      (·.functionName) = ["f", ""] ∧
      (wholeCalls (fun _ => none) (toolFragments chunks)).map (·.functionName) = ["f"] := by
  decide

end TokensFlux
