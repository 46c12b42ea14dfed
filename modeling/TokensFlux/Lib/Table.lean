import Mathlib

/-!
# Sums over tables

A table is an association list of rows by their keys.
-/

namespace TokensFlux

open AList List

variable {α β : Type*} [DecidableEq α] {weight : β → ℕ} {t : AList fun _ : α => β} {a : α} {b : β}

def tableSum (weight : β → ℕ) (t : AList fun _ : α => β) : ℕ :=
  (t.entries.map fun e => weight e.2).sum

/-! ### Two tables -/

def rowWeight (weight : β → ℕ) (t : AList fun _ : α => β) (a : α) : ℕ :=
  (t.lookup a).elim 0 weight

theorem tableSum_eq_sum (weight : β → ℕ) (t : AList fun _ : α => β) :
    tableSum weight t = ∑ a ∈ t.keys.toFinset, rowWeight weight t a := by
  rw [sum_toFinset _ t.keys_nodup, tableSum, AList.keys, List.keys, map_map]
  congr 1
  refine map_congr_left ?_
  intro e he
  have hrow : t.lookup e.1 = some e.2 := AList.mem_lookup_iff.mpr he
  simp [rowWeight, hrow]

theorem tableSum_le_add {t' : AList fun _ : α => β} {n : ℕ}
    (hkeys : ∀ k, (t'.lookup k).isSome → (t.lookup k).isSome)
    (h : ∀ k, rowWeight weight t' k ≤ rowWeight weight t k + if k = a then n else 0) :
    tableSum weight t' ≤ tableSum weight t + n := by
  have hsubset : t'.keys.toFinset ⊆ t.keys.toFinset := by
    intro k hk
    have hk' : k ∈ t' := mem_toFinset.mp hk
    have hsome := hkeys k (lookup_isSome.mpr hk')
    exact mem_toFinset.mpr (lookup_isSome.mp hsome)
  rw [tableSum_eq_sum, tableSum_eq_sum]
  calc ∑ k ∈ t'.keys.toFinset, rowWeight weight t' k
      ≤ ∑ k ∈ t'.keys.toFinset, (rowWeight weight t k + if k = a then n else 0) :=
        Finset.sum_le_sum fun k _ => h k
    _ ≤ ∑ k ∈ t.keys.toFinset, (rowWeight weight t k + if k = a then n else 0) :=
        Finset.sum_le_sum_of_subset hsubset
    _ = ∑ k ∈ t.keys.toFinset, rowWeight weight t k
          + ∑ k ∈ t.keys.toFinset, if k = a then n else 0 := Finset.sum_add_distrib
    _ ≤ ∑ k ∈ t.keys.toFinset, rowWeight weight t k + n := by
        rw [Finset.sum_ite_eq']
        gcongr
        split_ifs
        · exact le_rfl
        · exact Nat.zero_le n

/-! ### Writing rows -/

theorem lookup_foldl_insert (rows : List (α × β)) (t : AList fun _ : α => β) (a : α) :
    (rows.foldl (fun t r => t.insert r.1 r.2) t).lookup a = t.lookup a ∧ (∀ r ∈ rows, r.1 ≠ a) ∨
      ∃ r ∈ rows, r.1 = a ∧ (rows.foldl (fun t r => t.insert r.1 r.2) t).lookup a = some r.2 := by
  induction rows generalizing t with
  | nil => exact .inl ⟨rfl, forall_mem_nil _⟩
  | cons r _ ih =>
    rcases ih (t.insert r.1 r.2) with ⟨hsame, hnone⟩ | ⟨r', hr', ha, hrow⟩
    · by_cases ha : a = r.1
      · subst ha
        exact .inr ⟨r, mem_cons_self, rfl, hsame.trans (lookup_insert _)⟩
      · refine .inl ⟨hsame.trans (lookup_insert_ne ha), ?_⟩
        exact forall_mem_cons.mpr ⟨fun h => ha h.symm, hnone⟩
    · exact .inr ⟨r', mem_cons_of_mem _ hr', ha, hrow⟩

end TokensFlux
