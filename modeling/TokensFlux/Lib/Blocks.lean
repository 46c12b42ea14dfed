import Mathlib.Data.List.Nodup

/-!
# Streams of blocks

An index is started once, items go to an open block of their kind, and a block that is started next
to open ones has to be allowed to run in parallel with them.
-/

namespace TokensFlux

open List

inductive BlockEvent (ι κ : Type*)
  | start (i : ι) (k : κ)
  | item (i : ι) (k : κ)
  | stop (i : ι)
deriving DecidableEq, Repr

structure Blocks (ι κ : Type*) where
  used : List ι := []
  live : List (ι × κ) := []
deriving DecidableEq, Repr

namespace Blocks

variable {ι κ : Type*} [DecidableEq ι] [DecidableEq κ] (parallel : κ → κ → Bool) (b : Blocks ι κ)

def step : BlockEvent ι κ → Option (Blocks ι κ)
  | .start i k =>
    if i ∉ b.used ∧ ∀ block ∈ b.live, parallel block.2 k then
      some { used := i :: b.used, live := (i, k) :: b.live }
    else none
  | .item i k => if (i, k) ∈ b.live then some b else none
  | .stop i =>
    if i ∈ b.live.map Prod.fst then some { b with live := b.live.filter (·.1 ≠ i) } else none

def run (events : List (BlockEvent ι κ)) : Option (Blocks ι κ) :=
  events.foldlM (step parallel) b

theorem run_cons (e : BlockEvent ι κ) (events : List (BlockEvent ι κ)) :
    b.run parallel (e :: events) = (b.step parallel e).bind fun b => b.run parallel events := by
  rfl

variable {b}

theorem step_start {i : ι} {k : κ} (hfresh : i ∉ b.used)
    (hlive : ∀ block ∈ b.live, parallel block.2 k) :
    b.step parallel (.start i k) = some { used := i :: b.used, live := (i, k) :: b.live } :=
  if_pos ⟨hfresh, hlive⟩

theorem step_start_of_used {i : ι} {k : κ} (hused : i ∈ b.used) :
    b.step parallel (.start i k) = none :=
  if_neg fun h => h.1 hused

theorem step_start_of_live {i : ι} {k : κ} {block : ι × κ} (hlive : block ∈ b.live)
    (hblock : parallel block.2 k = false) : b.step parallel (.start i k) = none := by
  apply if_neg
  intro h
  have htrue := h.2 block hlive
  rw [hblock] at htrue
  cases htrue

theorem step_item {i : ι} {k : κ} (h : (i, k) ∈ b.live) : b.step parallel (.item i k) = some b :=
  if_pos h

theorem step_item_of_not_mem {i : ι} {k : κ} (h : (i, k) ∉ b.live) :
    b.step parallel (.item i k) = none :=
  if_neg h

variable (b)

/-- **Stopping several blocks**: all of them have to be open. -/
theorem run_stops {is : List ι} (hnodup : is.Nodup) : b.run parallel (is.map .stop)
      = if ∀ i ∈ is, i ∈ b.live.map Prod.fst then some { b with live := b.live.filter (·.1 ∉ is) }
        else none := by
  induction is generalizing b with
  | nil => simp [run]
  | cons i is ih =>
    obtain ⟨hnot, hnodup⟩ := nodup_cons.mp hnodup
    rw [map_cons, run_cons]
    by_cases hi : i ∈ b.live.map Prod.fst
    · have hstep : b.step parallel (.stop i) =
          some { b with live := b.live.filter (·.1 ≠ i) } := if_pos hi
      rw [hstep, Option.bind_some, ih _ hnodup]
      -- The other blocks are still open after the first one is stopped.
      have hothers : (∀ j ∈ is, j ∈ (b.live.filter (·.1 ≠ i)).map Prod.fst)
          ↔ ∀ j ∈ i :: is, j ∈ b.live.map Prod.fst := by
        constructor
        · intro h j hj
          rcases mem_cons.mp hj with rfl | hj
          · exact hi
          · obtain ⟨block, hblock, rfl⟩ := mem_map.mp (h j hj)
            exact mem_map_of_mem (mem_of_mem_filter hblock)
        intro h j hj
        obtain ⟨block, hblock, rfl⟩ := mem_map.mp (h j (mem_cons_of_mem _ hj))
        apply mem_map_of_mem
        rw [mem_filter]
        exact ⟨hblock, decide_eq_true fun heq => hnot (heq ▸ hj)⟩
      refine if_congr hothers ?_ rfl
      rw [filter_filter]
      have hfilter : ∀ block : ι × κ,
          (decide (block.1 ∉ is) && decide (block.1 ≠ i)) = decide (block.1 ∉ i :: is) := by
        intro block
        rw [← Bool.decide_and, decide_eq_decide, mem_cons, not_or]
        exact and_comm
      simp only [hfilter]
    · have hstep : b.step parallel (.stop i) = none := if_neg hi
      rw [hstep, if_neg fun h => hi (h i mem_cons_self)]
      rfl

end Blocks

end TokensFlux
