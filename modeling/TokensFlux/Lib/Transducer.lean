import Mathlib.Data.List.Basic

/-!
# Transducers

A transducer reads inputs one after the other, updates its state and emits outputs for each of them.
-/

namespace TokensFlux

open List

variable {σ α β ε κ : Type*}

def transduce (f : σ → α → σ × List ε) : σ → List α → σ × List ε
  | s, [] => (s, [])
  | s, a :: as =>
    let (s, emitted) := f s a
    let (s, later) := transduce f s as
    (s, emitted ++ later)

section

variable {f : σ → α → σ × List ε}

theorem transduce_append (s : σ) (as as' : List α) : transduce f s (as ++ as') =
      ((transduce f (transduce f s as).1 as').1,
        (transduce f s as).2 ++ (transduce f (transduce f s as).1 as').2) := by
  induction as generalizing s with
  | nil => rfl
  | cons _ _ ih => simp only [cons_append, transduce, ih, append_assoc]

theorem transduce_map (g : β → α) (s : σ) (bs : List β) :
    transduce f s (bs.map g) = transduce (fun s b => f s (g b)) s bs := by
  induction bs generalizing s with
  | nil => rfl
  | cons _ _ ih => simp only [map_cons, transduce, ih]

theorem transduce_invariant {P : List α → σ → List ε → Prop} {pre as : List α}
    {s : σ} {log : List ε} (hstep : ∀ as₁ a as₂ s log, as = as₁ ++ a :: as₂ → P (pre ++ as₁) s log →
      P (pre ++ as₁ ++ [a]) (f s a).1 (log ++ (f s a).2))
    (h : P pre s log) : P (pre ++ as) (transduce f s as).1 (log ++ (transduce f s as).2) := by
  induction as generalizing pre s log with
  | nil => simpa only [transduce, append_nil] using h
  | cons a as ih =>
    have hfirst := hstep [] a as s log rfl (by rwa [append_nil])
    rw [append_nil] at hfirst
    have hrest : P (pre ++ [a] ++ as) (transduce f (f s a).1 as).1
        (log ++ (f s a).2 ++ (transduce f (f s a).1 as).2) := by
      refine ih (fun as₁ a' as₂ s log has h => ?_) hfirst
      have := hstep (a :: as₁) a' as₂ s log (by rw [has, cons_append])
      simp only [append_assoc, cons_append, nil_append] at this h ⊢
      exact this h
    simpa only [transduce, append_assoc, cons_append, nil_append] using hrest

end

/-! ### Lanes -/

section

variable [DecidableEq κ] (key : ε → Option κ)

def lane (i : κ) (log : List ε) : List ε :=
  log.filter fun e => key e = some i

@[simp] theorem lane_append (i : κ) (log log' : List ε) :
    lane key i (log ++ log') = lane key i log ++ lane key i log' :=
  filter_append ..

variable {key}

theorem lane_eq_self {i : κ} {log : List ε} (h : ∀ e ∈ log, key e = some i) :
    lane key i log = log :=
  filter_eq_self.mpr fun e he => decide_eq_true (h e he)

theorem lane_singleton_self {i : κ} {e : ε} (h : key e = some i) : lane key i [e] = [e] :=
  lane_eq_self fun _ he => mem_singleton.mp he ▸ h

theorem lane_eq_nil {i : κ} {log : List ε} (h : ∀ e ∈ log, key e ≠ some i) : lane key i log = [] :=
  filter_eq_nil_iff.mpr fun e he => by simpa using h e he

theorem lane_singleton_of_ne {i : κ} {e : ε} (h : key e ≠ some i) : lane key i [e] = [] :=
  lane_eq_nil fun _ he => mem_singleton.mp he ▸ h

end

end TokensFlux
