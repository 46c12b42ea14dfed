import Mathlib.Order.Monotone.Basic

/-!
# Loops that leave from their body

The body goes on with a new state or leaves with a result; it is told how many passes were made
before it.
-/

namespace TokensFlux

variable {σ ρ : Type*}

def runLoop (body : ℕ → σ → σ ⊕ ρ) : ℕ → ℕ → σ → σ ⊕ ρ
  | 0, _, s => .inl s
  | fuel + 1, n, s =>
    match body n s with
    | .inl s => runLoop body fuel (n + 1) s
    | .inr r => .inr r

variable {body : ℕ → σ → σ ⊕ ρ} {n fuel : ℕ} {s s' : σ} {r : ρ}

theorem runLoop_succ_of_inl (h : body n s = .inl s') :
    runLoop body (fuel + 1) n s = runLoop body fuel (n + 1) s' := by
  rw [runLoop, h]

theorem runLoop_succ_of_inr (h : body n s = .inr r) : runLoop body (fuel + 1) n s = .inr r := by
  rw [runLoop, h]

/-- **The invariant rule.** -/
theorem runLoop_invariant {Inv : ℕ → σ → Prop} {Post : ρ → Prop}
    (hgo : ∀ n s s', Inv n s → body n s = .inl s' → Inv (n + 1) s')
    (hleave : ∀ n s r, Inv n s → body n s = .inr r → Post r) (h : Inv n s) :
    Sum.elim (Inv (n + fuel)) Post (runLoop body fuel n s) := by
  induction fuel generalizing n s with
  | zero => exact h
  | succ fuel ih =>
    cases hb : body n s with
    | inl s' =>
      rw [runLoop_succ_of_inl hb, show n + (fuel + 1) = n + 1 + fuel by omega]
      exact ih (hgo n s s' h hb)
    | inr r =>
      rw [runLoop_succ_of_inr hb]
      exact hleave n s r h hb

/-- **The measure rule.** -/
theorem runLoop_stops {Inv : σ → Prop} (μ : σ → ℕ)
    (hgo : ∀ n s s', Inv s → body n s = .inl s' → Inv s' ∧ μ s' < μ s) (h : Inv s)
    (hfuel : μ s < fuel) :
    ∃ r, runLoop body fuel n s = .inr r := by
  induction fuel generalizing n s with
  | zero => omega
  | succ _ ih =>
    cases hb : body n s with
    | inl s' =>
      obtain ⟨hInv, _⟩ := hgo n s s' h hb
      rw [runLoop_succ_of_inl hb]
      exact ih hInv (by omega)
    | inr r => exact ⟨r, runLoop_succ_of_inr hb⟩

/-- **The order rule.** -/
theorem runLoop_monotone {α : Type*} [Preorder α] {f : σ → α} {g : ρ → α}
    (hgo : ∀ n s s', body n s = .inl s' → f s ≤ f s')
    (hleave : ∀ n s r, body n s = .inr r → f s ≤ g r) :
    Monotone fun fuel => Sum.elim f g (runLoop body fuel n s) := by
  apply monotone_nat_of_le_succ
  intro fuel
  induction fuel generalizing n s with
  | zero =>
    cases hb : body n s with
    | inl s' =>
      rw [runLoop_succ_of_inl hb]
      exact hgo n s s' hb
    | inr r =>
      rw [runLoop_succ_of_inr hb]
      exact hleave n s r hb
  | succ _ ih =>
    cases hb : body n s with
    | inl =>
      rw [runLoop_succ_of_inl hb, runLoop_succ_of_inl hb]
      exact ih
    | inr =>
      rw [runLoop_succ_of_inr hb, runLoop_succ_of_inr hb]

end TokensFlux
