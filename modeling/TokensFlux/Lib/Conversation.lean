import Mathlib.Data.List.Infix

/-!
# Conversations as sequences of pieces

A conversion that puts the results of each message first keeps the content if and only if it drops
no text and no result answers a call of its own message (`keeps_iff`).
-/

namespace TokensFlux

open List

inductive Piece
  | text (value : String)
  | call (id name arguments : String)
  | result (id : String)
deriving DecidableEq, Repr

namespace Piece

def text? : Piece → Option String
  | .text value => if value ≠ "" then some value else none
  | _ => none

def call? : Piece → Option (String × String × String)
  | .call id name arguments => some (id, name, arguments)
  | _ => none

def result? : Piece → Option String
  | .result id => some id
  | _ => none

end Piece

variable (pieces : List Piece)

def texts : List String := pieces.filterMap Piece.text?

def calls : List (String × String × String) := pieces.filterMap Piece.call?

def results : List String := pieces.filterMap Piece.result?

def callsOf (id : String) (pieces : List Piece) : List (String × String × String) :=
  (calls pieces).filter (·.1 = id)

section

variable (p : Piece) (ps qs : List Piece)

@[simp] theorem texts_nil : texts [] = [] := by
  simp [texts]

@[simp] theorem texts_cons : texts (p :: ps) = p.text?.toList ++ texts ps := by
  unfold texts
  cases h : p.text? <;> simp [h]

@[simp] theorem calls_cons : calls (p :: ps) = p.call?.toList ++ calls ps := by
  unfold calls
  cases h : p.call? <;> simp [h]

@[simp] theorem results_cons : results (p :: ps) = p.result?.toList ++ results ps := by
  unfold results
  cases h : p.result? <;> simp [h]

@[simp] theorem texts_append : texts (ps ++ qs) = texts ps ++ texts qs := filterMap_append

@[simp] theorem calls_append : calls (ps ++ qs) = calls ps ++ calls qs := filterMap_append

@[simp] theorem results_append : results (ps ++ qs) = results ps ++ results qs := filterMap_append

@[simp] theorem callsOf_append (id : String) :
    callsOf id (ps ++ qs) = callsOf id ps ++ callsOf id qs := by
  unfold callsOf
  rw [calls_append, filter_append]

end

variable (ids : List String)

theorem texts_map_result : texts (ids.map Piece.result) = [] := by
  simp [texts, filterMap_eq_nil_iff, Piece.text?]

theorem calls_map_result : calls (ids.map Piece.result) = [] := by
  simp [calls, filterMap_eq_nil_iff, Piece.call?]

theorem results_map_result : results (ids.map Piece.result) = ids := by
  induction ids with
  | nil => rfl
  | cons _ _ ih =>
    rw [map_cons, results_cons, ih, Piece.result?, Option.toList_some, singleton_append]

structure Keeps (source target : List Piece) : Prop where
  texts : texts target = texts source
  calls : calls target = calls source
  results : results target = results source
  order : ∀ {pre id post pre' post'}, source = pre ++ .result id :: post →
    target = pre' ++ .result id :: post' → TokensFlux.results pre' = TokensFlux.results pre →
    callsOf id pre' = callsOf id pre ∧ TokensFlux.texts pre' <+: TokensFlux.texts pre ∧
      TokensFlux.calls pre' <+: TokensFlux.calls pre

/-! ### Places in a conversation -/

theorem eq_of_results_eq {pre pre' post post' : List Piece} {id id' : String}
    (h : pre ++ .result id :: post = pre' ++ .result id' :: post')
    (hresults : results pre = results pre') :
    pre = pre' ∧ post = post' := by
  induction pre generalizing pre' with
  | nil =>
    cases pre' with
    | nil => exact ⟨rfl, (List.cons.inj h).2⟩
    | cons =>
      rw [← (List.cons.inj h).1] at hresults
      cases hresults
  | cons p pre ih =>
    obtain _ | ⟨_, pre'⟩ := pre'
    · rw [(List.cons.inj h).1] at hresults
      cases hresults
    obtain ⟨rfl, htail⟩ := List.cons.inj h
    have hrest : results pre = results pre' := by
      have heq : results [p] ++ results pre = results [p] ++ results pre' := by
        rw [← results_append, ← results_append]
        exact hresults
      exact append_cancel_left heq
    obtain ⟨rfl, rfl⟩ := ih htail hrest
    exact ⟨rfl, rfl⟩

theorem exists_of_flatMap_eq {α β : Type} {f : α → List β} {l : List α} {pre post : List β} {b : β}
    (h : l.flatMap f = pre ++ b :: post) :
    ∃ l₁ a l₂ before after, l = l₁ ++ a :: l₂ ∧ f a = before ++ b :: after ∧
      pre = l₁.flatMap f ++ before := by
  induction l generalizing pre with
  | nil => simp at h
  | cons a l ih =>
    rw [flatMap_cons, append_eq_append_iff] at h
    rcases h with ⟨rest, rfl, hrest⟩ | ⟨rest, ha, hrest⟩
    · obtain ⟨l₁, a', l₂, before, after, rfl, ha', rfl⟩ := ih hrest
      refine ⟨a :: l₁, a', l₂, before, after, rfl, ha', ?_⟩
      rw [flatMap_cons, append_assoc]
    cases rest with
    | nil =>
      rw [append_nil] at ha
      obtain ⟨l₁, a', l₂, before, after, rfl, ha', hpre⟩ := @ih [] hrest.symm
      refine ⟨a :: l₁, a', l₂, before, after, rfl, ha', ?_⟩
      rw [flatMap_cons, append_assoc, ← hpre, append_nil, ha]
    | cons _ rest =>
      obtain ⟨rfl, -⟩ := cons.inj hrest
      exact ⟨[], a, l, pre, rest, rfl, ha, rfl⟩

/-! ### Conversions message by message -/

/-- All of its calls, and its texts unless it has calls. -/
structure Rendered (source rest : List Piece) : Prop where
  results : results rest = []
  calls : calls rest = calls source
  texts : texts rest = if TokensFlux.calls source = [] then TokensFlux.texts source else []

structure Rendering where
  source : List Piece
  rest : List Piece

def Rendering.target (x : Rendering) : List Piece := (results x.source).map .result ++ x.rest

variable {l : List Rendering}

theorem results_target (h : ∀ x ∈ l, Rendered x.source x.rest) :
    results (l.flatMap (·.target)) = results (l.flatMap (·.source)) := by
  unfold results
  rw [filterMap_flatMap, filterMap_flatMap]
  refine flatMap_congr fun x hx => ?_
  have hresults : results x.target = results x.source := by
    rw [Rendering.target, results_append, results_map_result, (h x hx).results, append_nil]
  exact hresults

theorem calls_target (h : ∀ x ∈ l, Rendered x.source x.rest) :
    calls (l.flatMap (·.target)) = calls (l.flatMap (·.source)) := by
  unfold calls
  rw [filterMap_flatMap, filterMap_flatMap]
  refine flatMap_congr fun x hx => ?_
  have hcalls : calls x.target = calls x.source := by
    rw [Rendering.target, calls_append, calls_map_result, nil_append, (h x hx).calls]
  exact hcalls

theorem texts_target (h : ∀ x ∈ l, Rendered x.source x.rest) :
    texts (l.flatMap (·.target)) = l.flatMap fun x => if calls x.source = []
      then texts x.source else [] := by
  unfold texts
  rw [filterMap_flatMap]
  refine flatMap_congr fun x hx => ?_
  have htexts : texts x.target = if calls x.source = [] then texts x.source else [] := by
    rw [Rendering.target, texts_append, texts_map_result, nil_append, (h x hx).texts]
  exact htexts

theorem flatMap_ite_eq_iff {α β : Type} (p : α → Prop) [DecidablePred p]
    (f : α → List β) (l : List α) :
    (l.flatMap fun a => if p a then f a else []) = l.flatMap f ↔ ∀ a ∈ l, f a = [] ∨ p a := by
  have hle : ∀ l : List α, (l.flatMap fun a => if p a then f a else []).length ≤
      (l.flatMap f).length := by
    intro l
    induction l with
    | nil => rfl
    | cons =>
      rw [flatMap_cons, flatMap_cons, length_append, length_append]
      split_ifs
      · omega
      · rw [length_nil]
        omega
  induction l with
  | nil => simp
  | cons a l ih =>
    rw [flatMap_cons, flatMap_cons, forall_mem_cons]
    by_cases hp : p a
    · simp [hp, ih]
    rw [if_neg hp, nil_append]
    constructor
    · intro heq
      have hlength := congrArg length heq
      rw [length_append] at hlength
      have hnil : f a = [] := by
        have := hle l
        exact eq_nil_of_length_eq_zero (by omega)
      refine ⟨.inl hnil, ih.mp ?_⟩
      rwa [hnil, nil_append] at heq
    · rintro ⟨hnil, hrest⟩
      rw [hnil.resolve_right hp, nil_append, ih.mpr hrest]

theorem texts_target_iff (h : ∀ x ∈ l, Rendered x.source x.rest) :
    texts (l.flatMap (·.target)) = texts (l.flatMap (·.source)) ↔ ∀ x ∈ l, texts x.source = [] ∨
      calls x.source = [] := by
  rw [texts_target h]
  have hsource : texts (l.flatMap (·.source)) = l.flatMap fun x => texts x.source :=
    filterMap_flatMap ..
  rw [hsource]
  exact flatMap_ite_eq_iff _ _ _

theorem target_split {l₁ l₂ : List Rendering} {x : Rendering}
    {before after : List Piece} {id : String} (hx : x.source = before ++ .result id :: after) :
    (l₁ ++ x :: l₂).flatMap (·.target) = (l₁.flatMap (·.target) ++ (results before).map .result) ++
      .result id :: ((results after).map .result ++ x.rest ++ l₂.flatMap (·.target)) := by
  have hresults : results x.source = results before ++ id :: results after := by
    rw [hx, results_append]
    rfl
  rw [flatMap_append, flatMap_cons, Rendering.target, hresults]
  simp only [map_append, map_cons, append_assoc, cons_append]

theorem keeps_iff (h : ∀ x ∈ l, Rendered x.source x.rest) :
    Keeps (l.flatMap (·.source)) (l.flatMap (·.target)) ↔
      ∀ x ∈ l, (texts x.source = [] ∨ calls x.source = []) ∧
        ∀ before id after, x.source = before ++ .result id :: after → callsOf id before = [] := by
  constructor
  · intro hkeeps x hx
    refine ⟨(texts_target_iff h).mp hkeeps.texts x hx, fun before id after heq => ?_⟩
    obtain ⟨l₁, l₂, rfl⟩ := append_of_mem hx
    have h₁ : ∀ y ∈ l₁, Rendered y.source y.rest := fun y hy => h y (mem_append_left _ hy)
    have hsource : (l₁ ++ x :: l₂).flatMap (·.source) = (l₁.flatMap (·.source) ++ before) ++
        .result id :: (after ++ l₂.flatMap (·.source)) := by
      rw [flatMap_append, flatMap_cons, heq]
      simp only [append_assoc, cons_append]
    have hresults : results (l₁.flatMap (·.target) ++ (results before).map .result) =
        results (l₁.flatMap (·.source) ++ before) := by
      rw [results_append, results_append, results_target h₁, results_map_result]
    obtain ⟨hcalls, -⟩ := hkeeps.order hsource (target_split heq) hresults
    have hcalls₁ : callsOf id (l₁.flatMap (·.target)) = callsOf id (l₁.flatMap (·.source)) := by
      rw [callsOf, callsOf, calls_target h₁]
    have hnone : callsOf id ((results before).map .result) = [] := by
      rw [callsOf, calls_map_result, filter_nil]
    rw [callsOf_append, callsOf_append, hcalls₁, hnone] at hcalls
    exact (append_cancel_left hcalls).symm
  intro hcond
  refine ⟨(texts_target_iff h).mpr fun x hx => (hcond x hx).1, calls_target h, results_target h, ?_⟩
  intro pre id post pre' post' hsource htarget hresults
  obtain ⟨l₁, x, l₂, before, after, rfl, hx, rfl⟩ := exists_of_flatMap_eq hsource
  have h₁ : ∀ y ∈ l₁, Rendered y.source y.rest := fun y hy => h y (mem_append_left _ hy)
  have hcond₁ := (texts_target_iff h₁).mpr fun y hy => (hcond y (mem_append_left _ hy)).1
  have hbefore := (hcond x (by simp)).2 before id after hx
  have hplace : pre' = l₁.flatMap (·.target) ++ (results before).map .result := by
    refine (eq_of_results_eq (htarget.symm.trans (target_split hx)) ?_).1
    rw [hresults, results_append, results_append, results_target h₁, results_map_result]
  rw [hplace]
  refine ⟨?_, ?_, ?_⟩
  · rw [callsOf_append, callsOf_append, hbefore, callsOf, callsOf, calls_target h₁,
      callsOf, calls_map_result]
    rfl
  · rw [texts_append, texts_append, hcond₁, texts_map_result, append_nil]
    exact prefix_append _ _
  · rw [calls_append, calls_append, calls_target h₁, calls_map_result, append_nil]
    exact prefix_append _ _

end TokensFlux
