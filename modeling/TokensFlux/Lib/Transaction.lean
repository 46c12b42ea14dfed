import Mathlib.Logic.Function.Basic

/-!
# Concurrent transactions

Processes `P` run one call `γ` each in a transaction on a store `σ`.  A row `κ` that a transaction
has locked or written belongs to it until it ends.
-/

namespace TokensFlux

/-- The committed store, the calls under way and the owners of locked rows. -/
structure TxSystem (P κ σ γ : Type) where
  store : σ
  calls : P → Option γ := fun _ => none
  locks : κ → Option P := fun _ => none

namespace TxSystem

variable {P κ σ γ : Type} [DecidableEq P] [DecidableEq κ]

def waits (s : TxSystem P κ σ γ) (p : P) (k : κ) : Bool :=
  match s.locks k with
  | some q => q ≠ p
  | none => false

def acquire (s : TxSystem P κ σ γ) (p : P) (k : κ) : TxSystem P κ σ γ :=
  { s with locks := Function.update s.locks k (some p) }

def acquireAll (s : TxSystem P κ σ γ) (p : P) (ks : List κ) : TxSystem P κ σ γ :=
  ks.foldl (fun s k => s.acquire p k) s

def advance (s : TxSystem P κ σ γ) (p : P) (c : γ) : TxSystem P κ σ γ :=
  { s with calls := Function.update s.calls p (some c) }

def commit (s : TxSystem P κ σ γ) (p : P) (store : σ) : TxSystem P κ σ γ where
  store
  calls := Function.update s.calls p none
  locks k := if s.locks k = some p then none else s.locks k

def rollback (s : TxSystem P κ σ γ) (p : P) : TxSystem P κ σ γ :=
  s.commit p s.store

variable {s : TxSystem P κ σ γ} {p q : P} {k k' : κ} {c : γ} {store : σ}

section Acquire

omit [DecidableEq P]

@[simp] theorem locks_acquire_self : (s.acquire p k).locks k = some p := by
  simp [acquire]

theorem locks_acquire_of_ne (h : k' ≠ k) : (s.acquire p k).locks k' = s.locks k' := by
  simp [acquire, h]

end Acquire

section Advance

omit [DecidableEq κ]

@[simp] theorem store_advance : (s.advance p c).store = s.store := rfl

@[simp] theorem calls_advance_self : (s.advance p c).calls p = some c := by
  simp [advance]

theorem calls_advance_of_ne (h : q ≠ p) : (s.advance p c).calls q = s.calls q := by
  simp [advance, h]

@[simp] theorem store_commit : (s.commit p store).store = store := rfl

@[simp] theorem calls_commit_self : (s.commit p store).calls p = none := by
  simp [commit]

theorem calls_commit_of_ne (h : q ≠ p) : (s.commit p store).calls q = s.calls q := by
  simp [commit, h]

theorem locks_commit_of_ne (h : q ≠ p) (hq : s.locks k = some q) :
    (s.commit p store).locks k = some q := by
  simp [commit, hq, h]

end Advance

theorem waits_acquire_self_of_not_waits (h : s.waits p k' = false) :
    (s.acquire p k).waits p k' = false := by
  by_cases hk : k' = k
  · subst hk
    simp [waits]
  · unfold waits
    rw [locks_acquire_of_ne hk]
    exact h

omit [DecidableEq κ] in
theorem eq_of_not_waits (h : s.waits p k = false) (hq : s.locks k = some q) : q = p := by
  simpa [waits, hq] using h

/-! ### Calls -/

omit [DecidableEq P] [DecidableEq κ] in
def EachCall (R : γ → Prop) (s : TxSystem P κ σ γ) : Prop :=
  ∀ p c, s.calls p = some c → R c

omit [DecidableEq κ] in
theorem EachCall.advance {R : γ → Prop} (h : EachCall R s) (p : P) (hc : R c) :
    EachCall R (s.advance p c) := by
  intro q c' hq
  by_cases hqp : q = p
  · subst hqp
    obtain rfl : c = c' := by simpa using hq
    exact hc
  · rw [calls_advance_of_ne hqp] at hq
    exact h q c' hq

omit [DecidableEq κ] in
theorem EachCall.commit {R : γ → Prop} (h : EachCall R s) (p : P) (store : σ) :
    EachCall R (s.commit p store) := by
  intro q c hq
  by_cases hqp : q = p
  · subst hqp
    simp at hq
  · rw [calls_commit_of_ne hqp] at hq
    exact h q c hq

/-! ### Rows -/

omit [DecidableEq P] [DecidableEq κ] in
def Owned (need : γ → κ → Prop) (s : TxSystem P κ σ γ) : Prop :=
  ∀ p c k, s.calls p = some c → need c k → s.locks k = some p

omit [DecidableEq P] [DecidableEq κ] in
/-- **Exclusion.**  Two calls that need one row are the same call. -/
theorem Owned.unique {need : γ → κ → Prop} (h : Owned need s) {c' : γ} (hp : s.calls p = some c)
    (hq : s.calls q = some c') (hc : need c k) (hc' : need c' k) : p = q :=
  Option.some.inj ((h p c k hp hc).symm.trans (h q c' k hq hc'))

theorem Owned.acquire {need : γ → κ → Prop} (h : Owned need s) (hfree : s.waits p k = false) :
    Owned need (s.acquire p k) := by
  intro q c k' hq hneed
  have hlock := h q c k' hq hneed
  by_cases hk : k' = k
  · subst hk
    obtain rfl := eq_of_not_waits hfree hlock
    exact locks_acquire_self
  · rw [locks_acquire_of_ne hk]
    exact hlock

omit [DecidableEq κ] in
theorem Owned.advance {need : γ → κ → Prop} (h : Owned need s)
    (hc : ∀ k, need c k → s.locks k = some p) : Owned need (s.advance p c) := by
  intro q c' k hq hneed
  by_cases hqp : q = p
  · subst hqp
    obtain rfl : c = c' := by simpa using hq
    exact hc k hneed
  · rw [calls_advance_of_ne hqp] at hq
    exact h q c' k hq hneed

omit [DecidableEq κ] in
theorem Owned.commit {need : γ → κ → Prop} (h : Owned need s) (p : P) (store : σ) :
    Owned need (s.commit p store) := by
  intro q c k hq hneed
  by_cases hqp : q = p
  · subst hqp
    simp at hq
  · rw [calls_commit_of_ne hqp] at hq
    exact locks_commit_of_ne hqp (h q c k hq hneed)

/-! ### Locking -/

def Locks (p : P) (s s₁ : TxSystem P κ σ γ) : Prop :=
  ∃ ks : List κ, (∀ k ∈ ks, s.waits p k = false) ∧ s₁ = s.acquireAll p ks

variable {s₁ : TxSystem P κ σ γ}

theorem Locks.refl (p : P) (s : TxSystem P κ σ γ) : Locks p s s :=
  ⟨[], List.forall_mem_nil _, rfl⟩

theorem Locks.acquire (h : s.waits p k = false) : Locks p s (s.acquire p k) :=
  ⟨[k], by simpa using h, rfl⟩

theorem Locks.induction {Q : TxSystem P κ σ γ → Prop} (h : Locks p s s₁) (h0 : Q s)
    (hstep : ∀ s k, s.waits p k = false → Q s → Q (s.acquire p k)) : Q s₁ := by
  obtain ⟨ks, hfree, rfl⟩ := h
  induction ks generalizing s with
  | nil => exact h0
  | cons k _ ih =>
    obtain ⟨hk, hks⟩ := List.forall_mem_cons.mp hfree
    exact ih (hstep s k hk h0) fun k' hk' => waits_acquire_self_of_not_waits (hks k' hk')

theorem Locks.store_eq (h : Locks p s s₁) : s₁.store = s.store :=
  h.induction (Q := fun s₁ => s₁.store = s.store) rfl fun _ _ _ hs => hs

theorem Locks.calls_eq (h : Locks p s s₁) : s₁.calls = s.calls :=
  h.induction (Q := fun s₁ => s₁.calls = s.calls) rfl fun _ _ _ hs => hs

theorem Locks.eachCall {R : γ → Prop} (h : Locks p s s₁) (hR : EachCall R s) : EachCall R s₁ := by
  intro q c hq
  rw [h.calls_eq] at hq
  exact hR q c hq

theorem Locks.owned {need : γ → κ → Prop} (h : Locks p s s₁) (hs : Owned need s) : Owned need s₁ :=
  h.induction hs fun _ _ hfree hs => hs.acquire hfree

section Rows

omit [DecidableEq P]

theorem locks_acquire_of_locks (h : s.locks k = some p) : (s.acquire p k').locks k = some p := by
  by_cases hk : k = k'
  · subst hk
    exact locks_acquire_self
  · rw [locks_acquire_of_ne hk]
    exact h

theorem locks_acquireAll_of_locks (ks : List κ) (h : s.locks k = some p) :
    (s.acquireAll p ks).locks k = some p := by
  induction ks generalizing s with
  | nil => exact h
  | cons _ _ ih => exact ih (locks_acquire_of_locks h)

theorem locks_acquireAll {ks : List κ} (hk : k ∈ ks) : (s.acquireAll p ks).locks k = some p := by
  induction ks generalizing s with
  | nil => cases hk
  | cons _ ks ih =>
    rcases List.mem_cons.mp hk with rfl | hk
    · exact locks_acquireAll_of_locks ks locks_acquire_self
    · exact ih hk

end Rows

theorem Locks.locks_self (h : Locks p s s₁) (hk : s.locks k = some p) : s₁.locks k = some p := by
  obtain ⟨ks, -, rfl⟩ := h
  exact locks_acquireAll_of_locks ks hk

end TxSystem

end TokensFlux
