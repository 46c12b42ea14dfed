import TokensFlux.Convert.Equiv.Message
import TokensFlux.Convert.GeminiRequest
import TokensFlux.Lib.Transducer

/-!
# The meaning of a Gemini request

A response gets the number of calls before it in its own content, so it gets the id of its call if
and only if that is the latest call of its own content.
-/

namespace TokensFlux

open List Option

/-! ### Parts -/

inductive GeminiData
  | text (value : String)
  | media
  | call (name : String)
  | response (name : String)
  | empty
deriving DecidableEq, Repr

def GeminiPart.data (part : GeminiPart) : GeminiData :=
  if part.text ≠ "" then .text part.text
  else
    match part.inlineData, part.fileData, part.functionCall, part.functionResponse with
    | some _, _, _, _ => .media
    | none, some _, _, _ => .media
    | none, none, some call, _ => .call call.functionName
    | none, none, none, some response => .response response.name
    | none, none, none, none => .empty

def GeminiData.text? : GeminiData → Option String
  | .text value => some value
  | _ => none

def GeminiData.isCall : GeminiData → Bool
  | .call _ => true
  | _ => false

variable (parts : List GeminiPart)

def partTexts : List String := parts.filterMap (·.data.text?)

def callCount : ℕ := parts.countP (·.data.isCall)

/-! ### Calls and responses -/

/-- Its content, and its number there, from 1. -/
structure CallPlace where
  content : ℕ
  number : ℕ
deriving DecidableEq, Repr

/-- The call that it answers, and its content with the number of calls before it there. -/
structure Reply where
  call : Option CallPlace
  place : CallPlace
deriving DecidableEq, Repr

/-- Where it is, and the calls that are not answered, latest first. -/
structure CallWalk where
  place : CallPlace := ⟨0, 0⟩
  opened : List (String × CallPlace) := []

def walkPart (w : CallWalk) (part : GeminiPart) : CallWalk × List Reply :=
  match part.data with
  | .call name =>
    let place : CallPlace := ⟨w.place.content, w.place.number + 1⟩
    ({ place, opened := (name, place) :: w.opened }, [])
  | .response name =>
    ({ w with opened := w.opened.eraseP (·.1 = name) },
      [{ call := (w.opened.find? (·.1 = name)).map (·.2), place := w.place }])
  | .text _ | .media | .empty => (w, [])

def walkContent (w : CallWalk) (content : GeminiChatContent) : CallWalk × List Reply :=
  let (w, replies) := transduce walkPart w content.parts
  ({ w with place := ⟨w.place.content + 1, 0⟩ }, replies)

variable (contents : List GeminiChatContent)

/-- Each with the latest call of its name that has not been answered. -/
def replies : List Reply :=
  (transduce walkContent {} contents).2

structure KeepsGemini (request : GeminiChatRequest) (messages : List Message)
    (stop : Option (List String)) : Prop where
  stop : stop.getD [] = request.stopSequences.values.take 4
  texts : texts (messages.flatMap openAIPieces) = request.contents.flatMap (partTexts ·.parts)
  unique : ((calls (messages.flatMap openAIPieces)).map (·.1)).Nodup
  answers : List.Forall₂ (fun reply id => ∀ place,
    reply.call = some place → id = geminiCallID place.number)
    (replies request.contents) (results (messages.flatMap openAIPieces))

/-! ### Ids -/

theorem geminiCallID_inj {n m : ℕ} (h : geminiCallID n = geminiCallID m) : n = m := by
  unfold geminiCallID at h
  have hdigits := congrArg String.toList h
  rw [String.toList_append, String.toList_append] at hdigits
  have hrepr := append_cancel_left hdigits
  rw [Nat.toString_eq_repr, Nat.toString_eq_repr, Nat.toList_repr, Nat.toList_repr] at hrepr
  rw [← @Nat.ofDigitChars_ten_toDigits n, hrepr, Nat.ofDigitChars_ten_toDigits]

def callIDs : List String := (range' 1 (callCount parts)).map geminiCallID

theorem callIDs_nodup : (callIDs parts).Nodup :=
  List.Nodup.map (fun _ _ h => geminiCallID_inj h) (nodup_range' 1)

theorem callIDs_eq_nil_iff {parts : List GeminiPart} :
    callIDs parts = [] ↔ callCount parts = 0 := by
  unfold callIDs
  rw [map_eq_nil_iff, range'_eq_nil_iff]

theorem one_mem_callIDs {parts : List GeminiPart} (h : callCount parts ≠ 0) :
    geminiCallID 1 ∈ callIDs parts :=
  mem_map_of_mem (mem_range'_1.mpr ⟨le_refl _, by omega⟩)

theorem nodup_callIDs_iff : (contents.flatMap (callIDs ·.parts)).Nodup ↔
      contents.Pairwise fun c c' => callCount c.parts = 0 ∨ callCount c'.parts = 0 := by
  induction contents with
  | nil => simp
  | cons _ _ ih =>
    rw [flatMap_cons, nodup_append', pairwise_cons, ih]
    constructor
    · rintro ⟨-, hrest, hdisjoint⟩
      refine ⟨fun c' hc' => ?_, hrest⟩
      by_contra hboth
      push Not at hboth
      exact hdisjoint (one_mem_callIDs hboth.1) (mem_flatMap.mpr ⟨c', hc', one_mem_callIDs hboth.2⟩)
    rintro ⟨hc, hrest⟩
    refine ⟨callIDs_nodup _, hrest, fun id hid hid' => ?_⟩
    obtain ⟨c', hc', hid'⟩ := mem_flatMap.mp hid'
    rcases hc c' hc' with hzero | hzero
    · rw [callIDs_eq_nil_iff.mpr hzero] at hid
      cases hid
    · rw [callIDs_eq_nil_iff.mpr hzero] at hid'
      cases hid'

/-! ### One part -/

variable (s : GeminiPartState)

theorem convertGeminiPart_eq (part : GeminiPart) : (∃ value, part.data = .text value ∧ value ≠ "" ∧
      convertGeminiPart s part =
      { s with mediaContents := s.mediaContents ++ [{ type := .text, text := value }] }) ∨
    (part.data = .media ∧ ∃ media : MediaContent, media.type = .imageURL ∧
      convertGeminiPart s part = { s with mediaContents := s.mediaContents ++ [media] }) ∨
    (∃ name, part.data = .call name ∧ ∃ call : ToolCallRequest,
      call.id = geminiCallID (s.toolCalls.length + 1) ∧
      convertGeminiPart s part = { s with toolCalls := s.toolCalls ++ [call] }) ∨
    (∃ name, part.data = .response name ∧ ∃ message : Message, message.role = "tool" ∧
      message.toolCallId = geminiCallID s.toolCalls.length ∧
      convertGeminiPart s part = { s with messages := s.messages ++ [message] }) ∨
    part.data = .empty ∧ convertGeminiPart s part = s := by
  unfold GeminiPart.data convertGeminiPart
  by_cases htext : part.text = ""
  · rw [if_neg (not_not.mpr htext), if_neg (not_not.mpr htext)]
    right
    rcases hinline : part.inlineData with _ | data
    · rcases hfile : part.fileData with _ | data
      · rcases hcall : part.functionCall with _ | call
        · rcases hresponse : part.functionResponse with _ | _
          · exact .inr (.inr (.inr ⟨rfl, rfl⟩))
          · exact .inr (.inr (.inl ⟨_, rfl, _, rfl, rfl, rfl⟩))
        · exact .inr (.inl ⟨_, rfl, _, rfl, rfl⟩)
      · exact .inl ⟨rfl, _, rfl, rfl⟩
    · exact .inl ⟨rfl, _, rfl, rfl⟩
  · rw [if_pos htext, if_pos htext]
    exact .inl ⟨_, rfl, htext, rfl⟩

/-! ### The parts of a content -/

theorem toolCalls_foldl : (parts.foldl convertGeminiPart s).toolCalls.map (·.id) =
      s.toolCalls.map (·.id) ++
      (range' (s.toolCalls.length + 1) (callCount parts)).map geminiCallID := by
  unfold callCount
  induction parts generalizing s with
  | nil => simp
  | cons part parts ih =>
    rw [foldl_cons, ih]
    rcases convertGeminiPart_eq s part with ⟨_, hdata, -, hconvert⟩ | ⟨hdata, _, -, hconvert⟩ |
      ⟨name, hdata, call, hcall, hconvert⟩ | ⟨name, hdata, message, -, -,
       hconvert⟩ | ⟨hdata, hconvert⟩
    case inr.inr.inl =>
      have hcount : (part :: parts).countP (·.data.isCall) = parts.countP (·.data.isCall) + 1 :=
        countP_cons_of_pos (by simp [hdata, GeminiData.isCall])
      rw [hconvert, hcount, range'_succ]
      simp [hcall]
    all_goals
      have hcount : (part :: parts).countP (·.data.isCall) = parts.countP (·.data.isCall) :=
        countP_cons_of_neg (by simp [hdata, GeminiData.isCall])
      rw [hconvert, hcount]

theorem texts_foldl : texts ((parts.foldl convertGeminiPart s).mediaContents.filterMap mediaPiece) =
      texts (s.mediaContents.filterMap mediaPiece) ++ partTexts parts := by
  unfold partTexts
  induction parts generalizing s with
  | nil => simp
  | cons part _ ih =>
    rw [foldl_cons, ih, filterMap_cons]
    rcases convertGeminiPart_eq s part with ⟨_, hdata, hvalue, hconvert⟩ |
      ⟨hdata, _, hmedia, hconvert⟩ |
      ⟨name, hdata, call, -, hconvert⟩ | ⟨name, hdata, message, -, -, hconvert⟩ | ⟨hdata, hconvert⟩
    · simp [hconvert, hdata, GeminiData.text?, mediaPiece, Piece.text?, hvalue]
    · simp [hconvert, hdata, GeminiData.text?, mediaPiece, hmedia]
    all_goals simp [hconvert, hdata, GeminiData.text?]

def Reply.id (reply : Reply) : String := geminiCallID reply.place.number

theorem messages_foldl (w : CallWalk) (hw : w.place.number = s.toolCalls.length) :
    ∃ tools, (parts.foldl convertGeminiPart s).messages = s.messages ++ tools ∧
      tools.flatMap openAIPieces = ((transduce walkPart w parts).2.map (·.id)).map .result := by
  induction parts generalizing s w with
  | nil => exact ⟨[], (append_nil _).symm, rfl⟩
  | cons part parts ih =>
    rw [foldl_cons]
    rcases convertGeminiPart_eq s part with ⟨_, hdata, -, hconvert⟩ | ⟨hdata, _, -, hconvert⟩ |
      ⟨name, hdata, call, hcall, hconvert⟩ | ⟨name, hdata, message, hrole, hid,
       hconvert⟩ | ⟨hdata, hconvert⟩
    case inr.inr.inl =>
      have hwalk : transduce walkPart w (part :: parts) =
          transduce walkPart (walkPart w part).1 parts := by
        simp [transduce, walkPart, hdata]
      rw [hconvert, hwalk]
      refine ih _ _ ?_
      simp [walkPart, hdata, hw]
    case inr.inr.inr.inl =>
      have hwalk : (transduce walkPart w (part :: parts)).2 =
          (walkPart w part).2 ++ (transduce walkPart (walkPart w part).1 parts).2 := rfl
      obtain ⟨tools, hmessages, hpieces⟩ := ih (convertGeminiPart s part) (walkPart w part).1
        (by simp [walkPart, hdata, hconvert, hw])
      refine ⟨message :: tools, ?_, ?_⟩
      · rw [hmessages, hconvert, append_assoc]
        rfl
      · rw [flatMap_cons, hpieces, hwalk]
        simp [openAIPieces, hrole, hid, walkPart, hdata, Reply.id, hw]
    all_goals
      have hwalk : transduce walkPart w (part :: parts) = transduce walkPart w parts := by
        simp [transduce, walkPart, hdata]
      rw [hconvert, hwalk]
      exact ih _ w hw

/-! ### The contents -/

theorem openAIPieces_of_ne {message : Message} (h : message.role ≠ "tool") :
    openAIPieces message = message.parseContent.filterMap mediaPiece ++
      message.parseToolCalls.map fun call => .call call.id call.name call.arguments :=
  if_neg h

theorem geminiMediaMessage_eq (role : String) (medias : List MediaContent) :
    (geminiMediaMessage role medias).role = role ∧
      (geminiMediaMessage role medias).toolCalls = none ∧
      ((geminiMediaMessage role medias).parseContent = [] ↔ medias = []) ∧
      (geminiMediaMessage role medias).parseContent.filterMap mediaPiece =
      medias.filterMap mediaPiece := by
  unfold geminiMediaMessage
  split
  · exact ⟨rfl, rfl, Iff.rfl, rfl⟩
  · split_ifs with htype
    · simp [htype, Message.parseContent, mediaPiece]
    · simp [Message.parseContent]
  · exact ⟨rfl, rfl, Iff.rfl, rfl⟩

theorem convertGeminiContent_eq (messages : List Message)
    (content : GeminiChatContent) (w : CallWalk) (hw : w.place.number = 0) :
    ∃ added, convertGeminiContent messages content = messages ++ added ∧
      results (added.flatMap openAIPieces) = (walkContent w content).2.map (·.id) ∧
      (calls (added.flatMap openAIPieces)).map (·.1) = callIDs content.parts ∧
      texts (added.flatMap openAIPieces) = if callCount content.parts = 0
        then partTexts content.parts else [] := by
  have hrole : convertGeminiRoleToOpenAI content.role ≠ "tool" := by
    unfold convertGeminiRoleToOpenAI
    split_ifs <;> decide
  have hcalls := toolCalls_foldl content.parts { messages }
  have htexts := texts_foldl content.parts { messages }
  obtain ⟨tools, hmessages, hpieces⟩ := messages_foldl content.parts { messages } w hw
  have htools : results (tools.flatMap openAIPieces) = (walkContent w content).2.map (·.id) ∧
      calls (tools.flatMap openAIPieces) = [] ∧ texts (tools.flatMap openAIPieces) = [] := by
    rw [hpieces]
    exact ⟨results_map_result _, calls_map_result _, texts_map_result _⟩
  unfold convertGeminiContent
  dsimp only
  generalize content.parts.foldl convertGeminiPart { messages } = s at hcalls htexts hmessages ⊢
  simp only [map_nil, List.nil_append, filterMap_nil, texts_nil, length_nil,
    Nat.zero_add] at hcalls htexts
  have hids : s.toolCalls.map (·.id) = callIDs content.parts := hcalls
  have hzero : callCount content.parts = 0 ↔ s.toolCalls = [] := by
    rw [← callIDs_eq_nil_iff, ← hids, map_eq_nil_iff]
  by_cases hnone : s.toolCalls = []
  · rw [if_neg (not_not.mpr hnone), if_pos (hzero.mpr hnone)]
    obtain ⟨hrole', hnoCalls, hempty, hmedia⟩ :=
      geminiMediaMessage_eq (convertGeminiRoleToOpenAI content.role) s.mediaContents
    generalize geminiMediaMessage (convertGeminiRoleToOpenAI content.role)
      s.mediaContents = message at *
    have hown : texts (openAIPieces message) = partTexts content.parts ∧
        calls (openAIPieces message) = [] ∧ results (openAIPieces message) = [] := by
      rw [openAIPieces_of_ne (by rwa [hrole']), Message.parseToolCalls, hnoCalls, hmedia, getD_none,
        map_nil, append_nil]
      exact ⟨htexts, (media_only_texts _).2, (media_only_texts _).1⟩
    have hcallIDs : callIDs content.parts = [] := by
      rw [← hids, hnone, map_nil]
    rw [hnoCalls, hcallIDs]
    by_cases hmedias : s.mediaContents = []
    · rw [if_neg (by simp [hempty.mpr hmedias])]
      refine ⟨tools, hmessages, htools.1, ?_, ?_⟩
      · rw [htools.2.1, map_nil]
      · rw [htools.2.2, ← htexts, hmedias]
        rfl
    rw [if_pos (.inl (mt hempty.mp hmedias))]
    refine ⟨tools ++ [message], ?_, ?_, ?_, ?_⟩
    · rw [hmessages, append_assoc]
    · rw [flatMap_append, flatMap_singleton, results_append, hown.2.2, htools.1, append_nil]
    · rw [flatMap_append, flatMap_singleton, calls_append, hown.2.1, htools.2.1]
      rfl
    · rw [flatMap_append, flatMap_singleton, texts_append, hown.1, htools.2.2, List.nil_append]
  rw [if_pos hnone, if_neg (mt hzero.mp hnone)]
  have hown : openAIPieces { role := convertGeminiRoleToOpenAI content.role,
                             toolCalls := some s.toolCalls } =
      s.toolCalls.map fun call => .call call.id call.name call.arguments := by
    rw [openAIPieces_of_ne hrole]
    rfl
  rw [if_pos (.inr rfl)]
  refine ⟨tools ++ [{ role := convertGeminiRoleToOpenAI content.role,
                      toolCalls := some s.toolCalls }], ?_, ?_, ?_, ?_⟩
  · rw [hmessages, append_assoc]
  · rw [flatMap_append, flatMap_singleton, results_append, hown, htools.1]
    simp [results, filterMap_eq_nil_iff, Piece.result?]
  · rw [flatMap_append, flatMap_singleton, calls_append, hown, htools.2.1, calls_map_call,
      List.nil_append, List.map_map, ← hids]
    rfl
  · rw [flatMap_append, flatMap_singleton, texts_append, hown, htools.2.2]
    simp [texts, filterMap_eq_nil_iff, Piece.text?]

theorem foldl_convertGeminiContent (messages : List Message) (w : CallWalk)
    (hw : w.place.number = 0) :
    ∃ added, contents.foldl convertGeminiContent messages = messages ++ added ∧
      results (added.flatMap openAIPieces) = (transduce walkContent w contents).2.map (·.id) ∧
      (calls (added.flatMap openAIPieces)).map (·.1) = contents.flatMap (callIDs ·.parts) ∧
      texts (added.flatMap openAIPieces) =
        contents.flatMap fun c => if callCount c.parts = 0 then partTexts c.parts else [] := by
  induction contents generalizing messages w with
  | nil => exact ⟨[], (append_nil _).symm, rfl, rfl, rfl⟩
  | cons content _ ih =>
    obtain ⟨added, hadded, hresults, hcalls, htexts⟩ :=
      convertGeminiContent_eq messages content w hw
    obtain ⟨later, hlater, hresults', hcalls', htexts'⟩ :=
      ih (messages ++ added) (walkContent w content).1 rfl
    refine ⟨added ++ later, ?_, ?_, ?_, ?_⟩
    · rw [foldl_cons, hadded, hlater, append_assoc]
    · rw [flatMap_append, results_append, hresults, hresults', ← map_append]
      rfl
    · rw [flatMap_append, calls_append, map_append, hcalls, hcalls', flatMap_cons]
    · rw [flatMap_append, texts_append, htexts, htexts', flatMap_cons]

/-! ### Calls and responses -/

section

variable (contents : List GeminiChatContent)

def HasCalls (i : ℕ) : Prop := ∃ c, contents[i]? = some c ∧ callCount c.parts ≠ 0

structure Walked (w : CallWalk) (log : List Reply) : Prop where
  opened : ∀ o ∈ w.opened, o.2.number ≠ 0 ∧ HasCalls contents o.2.content
  here : w.place.number ≠ 0 → HasCalls contents w.place.content
  calls : ∀ r ∈ log, ∀ p, r.call = some p → p.number ≠ 0 ∧ HasCalls contents p.content
  places : ∀ r ∈ log, r.place.number ≠ 0 → HasCalls contents r.place.content

variable {contents}

theorem Walked.walkPart {w : CallWalk} {log : List Reply} (h : Walked contents w log)
    {c : GeminiChatContent}
    (hc : contents[w.place.content]? = some c) {part : GeminiPart} (hpart : part ∈ c.parts) :
    Walked contents (TokensFlux.walkPart w part).1 (log ++ (TokensFlux.walkPart w part).2) := by
  unfold TokensFlux.walkPart
  cases hdata : part.data with
  | call =>
    have hhas : HasCalls contents w.place.content := by
      refine ⟨c, hc, ?_⟩
      have hpos : 0 < callCount c.parts := countP_pos_iff.mpr ⟨part, hpart, by rw [hdata]; rfl⟩
      omega
    rw [append_nil]
    refine ⟨forall_mem_cons.mpr ⟨⟨Nat.succ_ne_zero _, hhas⟩, h.opened⟩, fun _ => hhas,
      h.calls, h.places⟩
  | response =>
    refine ⟨fun o ho => h.opened o (mem_of_mem_eraseP ho), h.here, ?_, ?_⟩
    · intro r hr p hp
      rcases mem_append.mp hr with hr | hr
      · exact h.calls r hr p hp
      · rw [mem_singleton.mp hr] at hp
        obtain ⟨o, ho, rfl⟩ := map_eq_some_iff.mp hp
        exact h.opened o (mem_of_find?_eq_some ho)
    intro r hr
    rcases mem_append.mp hr with hr | hr
    · exact h.places r hr
    · rw [mem_singleton.mp hr]
      exact h.here
  | text | media | empty =>
    rw [append_nil]
    exact h

theorem content_walkPart (w : CallWalk) (part : GeminiPart) :
    (walkPart w part).1.place.content = w.place.content := by
  unfold walkPart
  cases part.data <;> rfl

theorem walked_replies :
    Walked contents (transduce walkContent {} contents).1 (replies contents) := by
  -- Along the contents, the walk is at the content that comes next.
  have hrun := @transduce_invariant _ _ _ walkContent
    (fun pre w log => w.place = ⟨pre.length, 0⟩ ∧ Walked contents w log) [] contents {} [] ?_ ?_
  · exact hrun.2
  · intro pre c post w log heq h
    obtain ⟨hplace, h⟩ := h
    have hc : contents[w.place.content]? = some c := by
      rw [hplace, heq]
      simp
    -- Along the parts of a content, it stays there.
    have hparts := @transduce_invariant _ _ _ walkPart
      (fun _ w' log => w'.place.content = w.place.content ∧ Walked contents w' log) [] c.parts w log
      (fun as part bs w' log' heq' h' => by
        refine ⟨(content_walkPart w' part).trans h'.1, h'.2.walkPart (c := c) ?_ ?_⟩
        · rw [h'.1]
          exact hc
        · rw [heq']
          simp) ⟨rfl, h⟩
    refine ⟨?_, hparts.2.opened, fun hne => absurd rfl hne, hparts.2.calls, hparts.2.places⟩
    show CallPlace.mk ((transduce walkPart w c.parts).1.place.content + 1) 0 = _
    rw [hparts.1, hplace]
    simp
  · exact ⟨rfl, forall_mem_nil _, fun hne => absurd rfl hne, forall_mem_nil _, forall_mem_nil _⟩

theorem place_eq_of_number_eq
    (hone : contents.Pairwise fun c c' => callCount c.parts = 0 ∨ callCount c'.parts = 0)
    {r : Reply} (hr : r ∈ replies contents) {p : CallPlace} (hp : r.call = some p)
    (heq : p.number = r.place.number) :
    p = r.place := by
  obtain ⟨_, c, hc, _⟩ := (walked_replies).calls r hr p hp
  obtain ⟨c', hc', _⟩ := (walked_replies).places r hr (by rwa [← heq])
  have hcontent : p.content = r.place.content := by
    by_contra hcontent
    obtain ⟨hlt, hget⟩ := List.getElem?_eq_some_iff.mp hc
    obtain ⟨hlt', hget'⟩ := List.getElem?_eq_some_iff.mp hc'
    rcases Nat.lt_or_gt_of_ne hcontent with horder | horder
    · have := pairwise_iff_getElem.mp hone _ _ hlt hlt' horder
      rw [hget, hget'] at this
      omega
    · have := pairwise_iff_getElem.mp hone _ _ hlt' hlt horder
      rw [hget, hget'] at this
      omega
  cases p
  cases hplace : r.place
  rw [hplace] at hcontent heq
  exact congrArg₂ CallPlace.mk hcontent heq

end

/-! ### The whole request -/

def geminiStop (stops : StringSlice) : Except String (Option (List String)) :=
  if stops.values ≠ [] then some <$> stops.upTo 4 else pure none

theorem geminiToOpenAIRequest_eq_ok_iff {request : GeminiChatRequest} {messages : List Message}
    {stop : Option (List String)} :
    geminiToOpenAIRequest request =
      .ok { messages := geminiSystemMessages request ++ messages, stop } ↔
      request.contents.foldl convertGeminiContent [] = messages ∧
        geminiStop request.stopSequences = .ok stop := by
  have hunfold : geminiToOpenAIRequest request = (geminiStop request.stopSequences).map fun stop =>
      { messages := geminiSystemMessages request ++ request.contents.foldl convertGeminiContent [],
        stop } := by
    unfold geminiToOpenAIRequest geminiStop
    split_ifs <;> rfl
  rw [hunfold]
  cases geminiStop request.stopSequences with
  | error | ok => simp [Except.map]

theorem geminiStop_iff (stops : StringSlice) :
    (∃ stop, geminiStop stops = .ok stop ∧ stop.getD [] = stops.values.take 4) ↔
      stops.values = [] ∨ 4 ≤ stops.values.length := by
  unfold geminiStop StringSlice.upTo
  by_cases hnil : stops.values = []
  · simp [hnil, pure, Except.pure]
  rw [if_pos hnil]
  dsimp only
  constructor
  · rintro ⟨stop, hstop, htake⟩
    split_ifs at hstop with hlength
    · obtain rfl : some ((stops.values ++ stops.spare).take 4) = stop := Except.ok.inj hstop
      have hlen := congrArg length htake
      rw [getD_some, length_take, length_take] at hlen
      omega
    · cases hstop
  intro hfour
  have hfour := hfour.resolve_left hnil
  refine ⟨some (stops.values.take 4), ?_, rfl⟩
  rw [if_pos (by rw [length_append]; omega), take_append_of_le_length hfour]
  rfl

theorem answers_iff (rs : List Reply) :
    List.Forall₂ (fun reply id => ∀ place, reply.call = some place →
      id = geminiCallID place.number) rs
        (rs.map (·.id)) ↔
      ∀ r ∈ rs, ∀ place, r.call = some place → place.number = r.place.number := by
  rw [forall₂_map_right_iff, forall₂_same]
  refine forall₄_congr fun r _ place _ => ?_
  exact ⟨fun h => (geminiCallID_inj h).symm, fun h => by rw [h]; rfl⟩

/-- A Gemini request keeps its meaning if and only if it has no stop sequences or at least four, no
content has both a text and a function call, at most one content has function calls, and a response
to an open call stands right after it. -/
theorem keepsGemini_iff (request : GeminiChatRequest) :
    (∃ messages stop, geminiToOpenAIRequest request =
        .ok { messages := geminiSystemMessages request ++ messages, stop } ∧
        KeepsGemini request messages stop) ↔
      (request.stopSequences.values = [] ∨ 4 ≤ request.stopSequences.values.length) ∧
      (∀ c ∈ request.contents, partTexts c.parts = [] ∨ callCount c.parts = 0) ∧
      (request.contents.Pairwise fun c c' => callCount c.parts = 0 ∨ callCount c'.parts = 0) ∧
      ∀ r ∈ replies request.contents, ∀ place, r.call = some place → place = r.place := by
  obtain ⟨messages, hmessages, hresults, hcalls, htexts⟩ :=
    foldl_convertGeminiContent request.contents [] {} rfl
  have hanswers := answers_iff (replies request.contents)
  rw [← show results (messages.flatMap openAIPieces) =
    (replies request.contents).map (·.id) from hresults] at hanswers
  have htexts' : texts (messages.flatMap openAIPieces) =
      request.contents.flatMap (partTexts ·.parts) ↔
      ∀ c ∈ request.contents, partTexts c.parts = [] ∨ callCount c.parts = 0 := by
    rw [htexts]
    exact flatMap_ite_eq_iff _ _ _
  have hunique := nodup_callIDs_iff request.contents
  rw [← hcalls] at hunique
  rw [← geminiStop_iff, ← htexts', ← hunique]
  constructor
  · rintro ⟨_, stop, hok, hkeeps⟩
    obtain ⟨hmessages', hstop⟩ := geminiToOpenAIRequest_eq_ok_iff.mp hok
    obtain rfl := hmessages.symm.trans hmessages'
    refine ⟨⟨stop, hstop, hkeeps.stop⟩, hkeeps.texts, hkeeps.unique, fun r hr place hplace => ?_⟩
    exact place_eq_of_number_eq (hunique.mp hkeeps.unique) hr hplace
      (hanswers.mp hkeeps.answers r hr place hplace)
  rintro ⟨⟨stop, hstop, htake⟩, htexts, hnodup, hplaces⟩
  refine ⟨messages, stop, geminiToOpenAIRequest_eq_ok_iff.mpr ⟨hmessages, hstop⟩,
    htake, htexts, hnodup, hanswers.mpr fun r hr place hplace => ?_⟩
  rw [hplaces r hr place hplace]

def geminiWeather : GeminiChatRequest where
  contents :=
    [{ role := "user", parts := [{ text := "And now?" }] },
      { role := "model", parts := [{ functionCall := some { functionName := "weather" } }] },
      { role := "user", parts := [{ functionResponse := some { name := "weather" } }] }]
  stopSequences := { values := ["END"] }

/-- A single stop sequence makes the conversion panic; without it, the response gets the id of no
call. -/
theorem not_keepsGemini_geminiWeather : geminiToOpenAIRequest geminiWeather =
        .error "runtime error: slice bounds out of range [:4] with capacity 1" ∧
      ¬ ∃ messages stop, geminiToOpenAIRequest geminiWeather =
        .ok { messages := geminiSystemMessages geminiWeather ++ messages, stop } ∧
        KeepsGemini geminiWeather messages stop := by
  have herror : geminiToOpenAIRequest geminiWeather =
      .error "runtime error: slice bounds out of range [:4] with capacity 1" := rfl
  refine ⟨herror, ?_⟩
  rintro ⟨messages, stop, hok, -⟩
  cases hok

end TokensFlux
