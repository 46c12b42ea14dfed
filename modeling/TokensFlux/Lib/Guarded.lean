import Mathlib.Data.List.Basic
import Mathlib.Logic.Relation

/-!
# Guarded runs of a step function

A run from `s` is the left fold of `step : σ → ε → σ` over a list of events.  `Guarded step guard s
es` says that every event of the run meets `guard` in the state it finds.
-/

namespace TokensFlux

open List

variable {σ ε : Type*}

/-- Every event of the run meets `guard` in the state it finds. -/
def Guarded (step : σ → ε → σ) (guard : σ → ε → Prop) : σ → List ε → Prop
  | _, [] => True
  | s, e :: es => guard s e ∧ Guarded step guard (step s e) es

namespace Guarded

variable {step : σ → ε → σ} {guard : σ → ε → Prop}

instance decidable [∀ s e, Decidable (guard s e)] :
    ∀ (s : σ) (es : List ε), Decidable (Guarded step guard s es)
  | _, [] => .isTrue trivial
  | s, e :: es => @instDecidableAnd _ _ _ (decidable (step s e) es)

theorem cons_iff {s : σ} {e : ε} {es : List ε} :
    Guarded step guard s (e :: es) ↔ guard s e ∧ Guarded step guard (step s e) es :=
  Iff.rfl

theorem iff_forall_step {s : σ} {es : List ε} :
    Guarded step guard s es ↔ ∀ done e, done ++ [e] <+: es → guard (done.foldl step s) e := by
  induction es generalizing s with
  | nil =>
    refine iff_of_true trivial fun done e h => ?_
    exact absurd (prefix_nil.mp h) (append_ne_nil_of_right_ne_nil done (cons_ne_nil e []))
  | cons e _ ih =>
    rw [cons_iff, ih]
    constructor
    · rintro ⟨hguard, hrest⟩ done e' h
      cases done with
      | nil =>
        obtain rfl : e' = e := (cons_prefix_cons.mp h).1
        exact hguard
      | cons _ done =>
        obtain ⟨rfl, hdone⟩ := cons_prefix_cons.mp h
        exact hrest done e' hdone
    intro h
    refine ⟨h [] e (cons_prefix_cons.mpr ⟨rfl, nil_prefix⟩), ?_⟩
    intro done e' hdone
    exact h (e :: done) e' (cons_prefix_cons.mpr ⟨rfl, hdone⟩)

/-- **The invariant rule.** -/
theorem invariant {Inv : σ → Prop} (hstep : ∀ s e, Inv s → guard s e → Inv (step s e))
    {s : σ} {es : List ε} (h0 : Inv s) (hg : Guarded step guard s es) : Inv (es.foldl step s) := by
  induction es generalizing s with
  | nil => exact h0
  | cons e _ ih => exact ih (hstep s e h0 hg.1) hg.2

theorem mono_of_invariant {guard' : σ → ε → Prop} {Inv : σ → Prop}
    (hstep : ∀ s e, Inv s → guard s e → Inv (step s e))
    (hmono : ∀ s e, Inv s → guard s e → guard' s e)
    {s : σ} {es : List ε} (h0 : Inv s) (hg : Guarded step guard s es) :
    Guarded step guard' s es := by
  induction es generalizing s with
  | nil => exact trivial
  | cons e _ ih => exact ⟨hmono s e h0 hg.1, ih (hstep s e h0 hg.1) hg.2⟩

/-- **The simulation rule.** -/
theorem simulation {α : Type*} {R : σ → α → Prop} {next : α → α → Prop}
    (hstep : ∀ s a e, R s a → guard s e → ∃ a', next a a' ∧ R (step s e) a')
    {s : σ} {a : α} {es : List ε} (h0 : R s a) (hg : Guarded step guard s es) :
    ∃ a', Relation.ReflTransGen next a a' ∧ R (es.foldl step s) a' := by
  induction es generalizing s a with
  | nil => exact ⟨a, .refl, h0⟩
  | cons e _ ih =>
    obtain ⟨b, hab, hb⟩ := hstep s a e h0 hg.1
    obtain ⟨c, hbc, hc⟩ := ih hb hg.2
    exact ⟨c, .head hab hbc, hc⟩

theorem invariant_of_step {Inv : σ → Prop} (hstep : ∀ s e, Inv s → Inv (step s e))
    {s : σ} (es : List ε) (h0 : Inv s) : Inv (es.foldl step s) := by
  induction es generalizing s with
  | nil => exact h0
  | cons e _ ih => exact ih (hstep s e h0)

/-- **The exact guard.** If a step leads to the property exactly when it meets the guard, a run is
guarded exactly when the property holds after every part of it. -/
theorem iff_forall_prefix_of_invariant {Inv P : σ → Prop}
    (hstep : ∀ s e, Inv s → (P (step s e) ↔ guard s e))
    (hinv : ∀ s e, Inv s → guard s e → Inv (step s e)) (hP : ∀ s, Inv s → P s) {s : σ}
    {es : List ε} (h0 : Inv s) :
    Guarded step guard s es ↔ ∀ es', es' <+: es → P (es'.foldl step s) := by
  induction es generalizing s with
  | nil =>
    constructor
    · intro _ es' hes'
      rw [prefix_nil.mp hes']
      exact hP s h0
    · intro _
      exact trivial
  | cons e es ih =>
    constructor
    · rintro ⟨hguard, hg⟩ es' hes'
      rcases prefix_cons_iff.mp hes' with rfl | ⟨t, rfl, ht⟩
      · exact hP s h0
      · exact (ih (hinv s e h0 hguard)).mp hg t ht
    intro h
    have hguard : guard s e := (hstep s e h0).mp (h [e] ⟨es, rfl⟩)
    refine ⟨hguard, (ih (hinv s e h0 hguard)).mpr ?_⟩
    intro t ht
    exact h (e :: t) (prefix_cons_iff.mpr (Or.inr ⟨t, rfl, ht⟩))

theorem iff_forall_prefix {Inv : σ → Prop}
    (hstep : ∀ s e, Inv s → (Inv (step s e) ↔ guard s e)) {s : σ} {es : List ε} (h0 : Inv s) :
    Guarded step guard s es ↔ ∀ es', es' <+: es → Inv (es'.foldl step s) :=
  iff_forall_prefix_of_invariant hstep (fun s e h => (hstep s e h).mpr) (fun _ h => h) h0

end Guarded

/-! ### Steps that can be blocked -/

section Blocking

variable {step : σ → ε → Option σ} {allowed : ε → Prop} {Inv : σ → Prop}

theorem foldlM_invariant (hstep : ∀ s e s', Inv s → allowed e → step s e = some s' → Inv s')
    {s s' : σ} {es : List ε} (h : Inv s) (hes : ∀ e ∈ es, allowed e)
    (hrun : es.foldlM step s = some s') :
    Inv s' := by
  induction es generalizing s with
  | nil =>
    obtain rfl : s = s' := Option.some.inj hrun
    exact h
  | cons e _ ih =>
    obtain ⟨s₁, hs₁, hrest⟩ := Option.bind_eq_some_iff.mp ((foldlM_cons ..).symm.trans hrun)
    obtain ⟨he, hes⟩ := forall_mem_cons.mp hes
    exact ih (hstep s e s₁ h he hs₁) hes hrest

/-- **The progress rule.** -/
theorem exists_foldlM_of_progress (Done : σ → Prop) (μ : σ → ℕ)
    (hstep : ∀ s e s', Inv s → allowed e → step s e = some s' → Inv s')
    (hprogress : ∀ s, Inv s → ¬Done s → ∃ e s', allowed e ∧ step s e = some s' ∧ μ s' < μ s)
    {s : σ} (h : Inv s) :
    ∃ (es : List ε) (s' : σ), (∀ e ∈ es, allowed e) ∧ es.foldlM step s = some s' ∧ Done s' := by
  induction hμ : μ s using Nat.strongRecOn generalizing s with
  | ind _ ih =>
    by_cases hdone : Done s
    · exact ⟨[], s, forall_mem_nil _, rfl, hdone⟩
    obtain ⟨e, s₁, he, hs₁, hlt⟩ := hprogress s h hdone
    obtain ⟨es, s', hes, hrun, hdone'⟩ := ih (μ s₁) (hμ ▸ hlt) (hstep s e s₁ h he hs₁) rfl
    refine ⟨e :: es, s', forall_mem_cons.mpr ⟨he, hes⟩, ?_, hdone'⟩
    rw [foldlM_cons, hs₁]
    exact hrun

end Blocking

/-- What is under way after one entry has changed. -/
theorem forall_update {α β : Type*} [DecidableEq α] {f : α → Option β} {P : α → β → Prop}
    {a : α} {new : Option β} (hf : ∀ a' b, a' ≠ a → f a' = some b → P a' b)
    (hnew : ∀ b, new = some b → P a b) (a' : α) (b : β)
    (h : Function.update f a new a' = some b) : P a' b := by
  by_cases ha : a' = a
  · subst ha
    rw [Function.update_self] at h
    exact hnew b h
  · rw [Function.update_of_ne ha] at h
    exact hf a' b ha h

/-! ### Once -/

variable (closed : σ → Prop)

variable (count : σ → ℕ)

/-- It counts at most when it closes the gate, and never opens it. -/
def OnceStep (s s' : σ) : Prop :=
  (count s' = count s ∧ (closed s → closed s')) ∨ (¬closed s ∧ closed s' ∧ count s' = count s + 1)

theorem OnceStep.refl (s : σ) : OnceStep closed count s s :=
  Or.inl ⟨rfl, id⟩

def CountedOnce (s : σ) : Prop :=
  count s = 0 ∨ closed s ∧ count s = 1

theorem CountedOnce.step {closed : σ → Prop} {count : σ → ℕ} {s s' : σ}
    (h : CountedOnce closed count s) (hstep : OnceStep closed count s s') :
    CountedOnce closed count s' := by
  rcases hstep with ⟨hcount, hkeep⟩ | ⟨hopen, hclosed, hcount⟩
  · rcases h with h | ⟨hclosed, h⟩
    · exact .inl (hcount.trans h)
    · exact .inr ⟨hkeep hclosed, hcount.trans h⟩
  · rcases h with h | ⟨h, -⟩
    · exact .inr ⟨hclosed, by omega⟩
    · exact absurd h hopen

/-- **The at-most-once rule.** -/
theorem Guarded.atMostOnce {step : σ → ε → σ} {guard : σ → ε → Prop} {Inv closed : σ → Prop}
    {count : σ → ℕ} (hinv : ∀ s e, Inv s → Inv (step s e))
    (hstep : ∀ s e, Inv s → guard s e → OnceStep closed count s (step s e))
    {s : σ} {es : List ε} (h0 : Inv s) (hcount : count s = 0) (hg : Guarded step guard s es) :
    count (es.foldl step s) ≤ 1 := by
  have hboth : ∀ s e, Inv s ∧ CountedOnce closed count s → guard s e →
      Inv (step s e) ∧ CountedOnce closed count (step s e) := by
    rintro s e ⟨hs, honce⟩ he
    exact ⟨hinv s e hs, honce.step (hstep s e hs he)⟩
  have hrun := invariant hboth ⟨h0, Or.inl hcount⟩ hg
  rcases hrun.2 with h | ⟨-, h⟩ <;> omega

end TokensFlux
