import TokensFlux.Convert.Message
import TokensFlux.Lib.Conversation

/-!
# Chat messages as a conversation

A tool message is a tool result; any other message is its texts and its tool calls.
-/

namespace TokensFlux

def mediaPiece (part : MediaContent) : Option Piece :=
  if part.type = .text then some (.text part.text) else none

/-- A tool message is a result, another one has texts and calls. -/
def openAIPieces (message : Message) : List Piece :=
  if message.role = "tool" then [.result message.toolCallId]
  else message.parseContent.filterMap mediaPiece ++
    message.parseToolCalls.map fun call => .call call.id call.name call.arguments

theorem media_only_texts (media : List MediaContent) :
    results (media.filterMap mediaPiece) = [] ∧ calls (media.filterMap mediaPiece) = [] := by
  induction media with
  | nil => exact ⟨rfl, rfl⟩
  | cons part _ ih =>
    by_cases htype : part.type = .text <;> simp [mediaPiece, htype, Piece.result?, Piece.call?, ih]

theorem calls_map_call (toolCalls : List ToolCallRequest) :
    calls (toolCalls.map fun c => Piece.call c.id c.name c.arguments) =
      toolCalls.map fun c => (c.id, c.name, c.arguments) := by
  induction toolCalls with
  | nil => rfl
  | cons _ _ ih =>
    rw [List.map_cons, calls_cons, ih]
    rfl

end TokensFlux
