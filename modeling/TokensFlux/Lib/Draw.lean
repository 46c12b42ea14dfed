import Mathlib.Data.List.Count
import Mathlib.Data.List.Rotate

/-!
# Drawing by weight

Every entry of a list owns an interval of numbers as long as its weight, one after the other.
-/

namespace TokensFlux

open List

variable {α : Type*} (weight : α → ℕ)

/-- The entry that owns the number. -/
def draw : ℕ → List α → Option α
  | _, [] => none
  | r, a :: as => if r < weight a then some a else draw (r - weight a) as

def totalWeight : List α → ℕ
  | [] => 0
  | a :: as => weight a + totalWeight as

variable {weight} {a : α} {as : List α}

theorem foldl_add_eq_totalWeight (sum : ℕ) :
    as.foldl (fun sum a => sum + weight a) sum = sum + totalWeight weight as := by
  induction as generalizing sum with
  | nil => rfl
  | cons _ _ ih => rw [foldl_cons, ih, totalWeight, Nat.add_assoc]

theorem totalWeight_pos (h : a ∈ as) (hpos : 0 < weight a) : 0 < totalWeight weight as := by
  induction as with
  | nil => cases h
  | cons _ _ ih =>
    rw [totalWeight]
    rcases mem_cons.mp h with rfl | h
    · omega
    · have := ih h
      omega

theorem draw_add (r : ℕ) : draw weight (weight a + r) (a :: as) = draw weight r as := by
  rw [draw, if_neg (by omega), Nat.add_sub_cancel_left]

theorem mem_of_draw {r : ℕ} (h : draw weight r as = some a) : a ∈ as ∧ 0 < weight a := by
  induction as generalizing r with
  | nil => cases h
  | cons _ _ ih =>
    rw [draw] at h
    split_ifs at h with hlt
    · cases h
      exact ⟨mem_cons_self, Nat.zero_lt_of_lt hlt⟩
    · obtain ⟨hmem, hpos⟩ := ih h
      exact ⟨mem_cons_of_mem _ hmem, hpos⟩

theorem exists_draw {r : ℕ} (h : r < totalWeight weight as) :
    ∃ a ∈ as, draw weight r as = some a := by
  induction as generalizing r with
  | nil => exact absurd h (Nat.not_lt_zero _)
  | cons a _ ih =>
    rw [totalWeight] at h
    rw [draw]
    split_ifs with hlt
    · exact ⟨a, mem_cons_self, rfl⟩
    · obtain ⟨a', hmem, ha'⟩ := ih (show r - weight a < _ by omega)
      exact ⟨a', mem_cons_of_mem _ hmem, ha'⟩

/-- The last number is the last entry's. -/
theorem draw_pred_totalWeight (h : ∀ a ∈ as, 0 < weight a) :
    draw weight (totalWeight weight as - 1) as = as.getLast? := by
  induction as with
  | nil => rfl
  | cons a as ih =>
    obtain ⟨ha, has⟩ := forall_mem_cons.mp h
    cases as with
    | nil => rw [totalWeight, totalWeight, draw, if_pos (by omega), getLast?_singleton]
    | cons b bs =>
      have hpos : 0 < totalWeight weight (b :: bs) :=
        totalWeight_pos mem_cons_self (has b mem_cons_self)
      rw [totalWeight, Nat.add_sub_assoc hpos, draw_add, ih has, getLast?_cons_cons]

variable [DecidableEq α]

/-- **An entry owns as many numbers as its weight**, once for every time it is listed. -/
theorem countP_draw (a : α) (as : List α) :
    (range (totalWeight weight as)).countP (draw weight · as = some a) = as.count a * weight a := by
  induction as with
  | nil => simp [totalWeight]
  | cons b as ih =>
    have hfirst : (range (weight b)).countP (draw weight · (b :: as) = some a) =
        if b = a then weight b else 0 := by
      have hall : ∀ r ∈ range (weight b), draw weight r (b :: as) = some b := by
        intro r hr
        rw [draw, if_pos (mem_range.mp hr)]
      split_ifs with heq
      · rw [countP_eq_length.mpr, length_range]
        intro r hr
        rw [hall r hr, heq, decide_eq_true rfl]
      · rw [countP_eq_zero]
        intro r hr
        simp [hall r hr, heq]
    rw [totalWeight, range_add, countP_append, hfirst, countP_map, count_cons, Nat.add_mul, ← ih]
    simp only [Function.comp_def, draw_add, beq_iff_eq]
    split_ifs with heq
    · rw [heq]
      omega
    · omega

/-- With a positive weight it owns one. -/
theorem exists_draw_eq_some (h : a ∈ as) (hpos : 0 < weight a) :
    ∃ r < totalWeight weight as, draw weight r as = some a := by
  have hcount : 0 < (range (totalWeight weight as)).countP (draw weight · as = some a) := by
    rw [countP_draw]
    exact Nat.mul_pos (count_pos_iff.mpr h) hpos
  obtain ⟨r, hr, hdraw⟩ := countP_pos_iff.mp hcount
  exact ⟨r, mem_range.mp hr, of_decide_eq_true hdraw⟩

/-! ### Taking turns -/

theorem map_add_mod_range (n start : ℕ) :
    (range n).map (fun i => (start + i) % n) = (range n).rotate start := by
  apply ext_getElem
  · simp
  · intro i hi _
    simp [getElem_rotate, Nat.add_comm]

/-- The round goes on after the element that it has reached. -/
theorem filter_rotate_next {p : ℕ → Bool} {n start idx : ℕ} {rest : List ℕ}
    (h : ((range n).rotate start).filter p = idx :: rest) :
    ((range n).rotate ((idx + 1) % n)).filter p = rest ++ [idx] := by
  obtain ⟨l₁, l₂, hl, hl₁, hp, rfl⟩ := filter_eq_cons_iff.mp h
  have hidx : idx = (l₁.length + start) % n := by
    have hget : ((range n).rotate start)[l₁.length]? = some idx := by simp [hl]
    obtain ⟨_, hget⟩ := List.getElem?_eq_some_iff.mp hget
    simpa [getElem_rotate] using hget.symm
  have hmod := rotate_mod (range n)
  rw [length_range] at hmod
  have hrotate : (range n).rotate ((idx + 1) % n) = l₂ ++ l₁ ++ [idx] := by
    calc (range n).rotate ((idx + 1) % n)
      _ = ((range n).rotate idx).rotate 1 := by rw [hmod, rotate_rotate]
      _ = (((range n).rotate start).rotate l₁.length).rotate 1 := by
        rw [rotate_rotate _ start, hidx, hmod, Nat.add_comm]
      _ = l₂ ++ l₁ ++ [idx] := by
        rw [hl, rotate_append_length_eq, cons_append, rotate_cons_succ, rotate_zero]
  rw [hrotate, filter_append, filter_append, filter_eq_nil_iff.mpr hl₁]
  simp [hp]

end TokensFlux
