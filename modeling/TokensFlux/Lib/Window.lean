import Mathlib.Algebra.Order.Group.Int
import Mathlib.Data.List.Basic

/-!
# Sliding windows

Times to which new ones are added only while fewer than `n` are recent (`Spaced`) have at most `n`
in any interval shorter than `d`; `Remembers` is what a limiter needs to keep of them.
-/

namespace TokensFlux

open List

def recent (d now : ℤ) (times : List ℤ) : ℕ :=
  times.countP fun t => now - t < d

def Spaced (n : ℕ) (d : ℤ) : List ℤ → Prop
  | [] => True
  | t :: times => recent d t times < n ∧ Spaced n d times

variable {n : ℕ} {d now a b : ℤ} {kept times : List ℤ}

/-- **The window bound.** -/
theorem Spaced.countP_le (h : Spaced n d times) (hlt : b - a < d) :
    times.countP (fun t => a ≤ t ∧ t ≤ b) ≤ n := by
  induction times with
  | nil => exact Nat.zero_le n
  | cons t times ih =>
    by_cases ht : a ≤ t ∧ t ≤ b
    · -- Whatever lies in the interval with `t` is recent at `t`.
      have hrecent : times.countP (fun x => a ≤ x ∧ x ≤ b) ≤ recent d t times := by
        apply countP_mono_left
        intro x _ hx
        simp only [decide_eq_true_eq] at hx ⊢
        omega
      rw [countP_cons_of_pos (by simpa using ht)]
      exact Nat.succ_le_of_lt (lt_of_le_of_lt hrecent h.1)
    · rw [countP_cons_of_neg (by simpa using ht)]
      exact ih h.2

/-- The times `kept` are the newest, at most `n` of them; if there are fewer, no other is recent. -/
structure Remembers (n : ℕ) (d now : ℤ) (kept times : List ℤ) : Prop where
  sorted : times.Pairwise (· ≥ ·)
  past : ∀ t ∈ times, t ≤ now
  length_le : kept.length ≤ n
  eq_append : ∃ old, times = kept ++ old ∧ (kept.length < n → ∀ t ∈ old, t + d ≤ now)

namespace Remembers

theorem nil (n : ℕ) (d now : ℤ) : Remembers n d now [] [] :=
  ⟨.nil, forall_mem_nil _, Nat.zero_le n, [], rfl, fun _ => forall_mem_nil _⟩

theorem mono {now' : ℤ} (h : Remembers n d now kept times) (hle : now ≤ now') :
    Remembers n d now' kept times := by
  obtain ⟨hsorted, hpast, hlength, old, htimes, hold⟩ := h
  refine ⟨hsorted, fun t ht => (hpast t ht).trans hle, hlength, old, htimes, ?_⟩
  exact fun hlt t ht => (hold hlt t ht).trans hle

theorem push (h : Remembers n d now kept times) (hn : 0 < n) :
    Remembers n d now ((now :: kept).take n) (now :: times) := by
  obtain ⟨hsorted, hpast, _, old, htimes, hold⟩ := h
  obtain ⟨m, rfl⟩ := Nat.exists_eq_add_one_of_ne_zero hn.ne'
  rw [take_succ_cons]
  refine ⟨pairwise_cons.mpr ⟨hpast, hsorted⟩, ?_, ?_, kept.drop m ++ old, ?_, ?_⟩
  · exact forall_mem_cons.mpr ⟨le_refl now, hpast⟩
  · rw [length_cons, length_take]
    omega
  · rw [htimes, cons_append, ← append_assoc, take_append_drop]
  intro hlt
  rw [length_cons, length_take] at hlt
  rw [drop_eq_nil_of_le (by omega), nil_append]
  exact hold (by omega)

theorem forget (h : Remembers n d now kept times) (hn : 0 < n) (hkept : ∀ t ∈ kept, t + d ≤ now) :
    Remembers n d now [] times := by
  obtain ⟨hsorted, hpast, _, _, rfl, hold⟩ := h
  refine ⟨hsorted, hpast, Nat.zero_le n, _, rfl, fun _ => forall_mem_append.mpr ⟨hkept, ?_⟩⟩
  by_cases hfull : kept.length < n
  · exact hold hfull
  -- All others are older than one that is kept.
  obtain ⟨x, hx⟩ := exists_mem_of_length_pos (l := kept) (by omega)
  intro t ht
  have hle : t ≤ x := (pairwise_append.mp hsorted).2.2 x hx t ht
  exact (Int.add_le_add_right hle d).trans (hkept x hx)

/-- **The decision.** `n` times are recent exactly if the oldest of `n` that are kept is. -/
theorem le_recent_iff (h : Remembers n d now kept times) (hn : 0 < n) :
    n ≤ recent d now times ↔ n ≤ kept.length ∧ now - kept.getLastD 0 < d := by
  obtain ⟨hsorted, _, _, old, rfl, hold⟩ := h
  have hsplit : recent d now (kept ++ old) = recent d now kept +
      recent d now old := countP_append ..
  have hkept : recent d now kept ≤ kept.length := countP_le_length
  rw [hsplit]
  by_cases hfull : kept.length < n
  · have hnone : recent d now old = 0 := by
      refine countP_eq_zero.mpr fun t ht => ?_
      have := hold hfull t ht
      simp only [decide_eq_true_eq]
      omega
    omega
  obtain ⟨newer, oldest, rfl⟩ :=
    (eq_nil_or_concat kept).resolve_left (ne_nil_of_length_pos (by omega))
  rw [concat_eq_append, length_append, length_singleton] at *
  have hlast : (newer ++ [oldest]).getLastD 0 = oldest := by simp
  have hparts := pairwise_append.mp hsorted
  by_cases hlt : now - oldest < d
  · -- The others that are kept are newer.
    have hall : recent d now (newer ++ [oldest]) = (newer ++ [oldest]).length := by
      refine countP_eq_length.mpr fun t ht => ?_
      have hle : oldest ≤ t := by
        rcases mem_append.mp ht with ht | ht
        · exact (pairwise_append.mp hparts.1).2.2 t ht oldest (mem_singleton_self _)
        · rw [mem_singleton.mp ht]
      simp only [decide_eq_true_eq]
      omega
    rw [hall, length_append, length_singleton]
    omega
  have hnewer : recent d now (newer ++ [oldest]) ≤ newer.length := by
    unfold recent
    rw [countP_append, countP_singleton, if_neg (by simpa using hlt)]
    exact countP_le_length
  have hnone : recent d now old = 0 := by
    refine countP_eq_zero.mpr fun t ht => ?_
    have hle : t ≤ oldest := hparts.2.2 oldest (by simp) t ht
    simp only [decide_eq_true_eq]
    omega
  omega

end Remembers

end TokensFlux
