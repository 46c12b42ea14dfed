import Mathlib.Algebra.BigOperators.Group.Finset.Piecewise
import TokensFlux.Subscription.Equiv.System

/-!
# The used amount of a subscription

It stays within the total, and covers what was consumed since the last reset as long as no request
gives back more than it has consumed since then.
-/

namespace TokensFlux

open Finset Option Store SubscriptionSystem

/-! ### The total -/

namespace Store

def Bounded (s : Store) : Prop :=
  ∀ id sub, s.subs.lookup id = some sub → 0 < sub.amountTotal → sub.amountUsed ≤ sub.amountTotal

theorem Bounded.of_insert {s t : Store} {id : ℤ} {sub : UserSubscription} (h : s.Bounded)
    (ht : t.subs = s.subs.insert id sub)
    (hsub : 0 < sub.amountTotal → sub.amountUsed ≤ sub.amountTotal) : t.Bounded := by
  intro k row hrow
  rw [ht] at hrow
  by_cases hk : k = id
  · subst hk
    rw [AList.lookup_insert] at hrow
    cases hrow
    exact hsub
  · rw [AList.lookup_insert_ne hk] at hrow
    exact h k row hrow

theorem Bounded.dueResets {cal : Calendar} {now : ℤ} {s t : Store} (h : s.Bounded)
    (hdue : DueResets cal now s t) : t.Bounded := by
  intro id row hrow
  rcases hdue.row id with hsame | ⟨sub, _, _, hsub, -, hreset, hsub'⟩
  · rw [hsame] at hrow
    exact h id row hrow
  obtain rfl := some.inj (hrow.symm.trans hsub')
  rcases dueReset_cases hreset with ⟨-, -, ⟨next, last, rfl⟩, -⟩ | ⟨-, ⟨next, last, rfl⟩, -⟩
  · exact h id sub hsub
  · intro hpos
    exact hpos.le

theorem Bounded.write {s : Store} {id : ℤ} {w : SubscriptionWrite} (h : s.Bounded)
    (hw : ∀ sub, w = .save sub → sub.amountUsed = 0) : (s.write id w).Bounded := by
  cases w with
  | save sub =>
    refine h.of_insert rfl ?_
    intro hpos
    rw [hw sub rfl]
    exact hpos.le
  | columns =>
    unfold Store.write
    cases hrow : s.subs.lookup id with
    | none => exact h
    | some sub => exact h.of_insert rfl (h id sub hrow)

end Store

namespace SubscriptionSystem

variable {P : Type} {cal : Calendar} {s s' : SubscriptionSystem P}

theorem bounded_of_uses {id delta : ℤ} {requestId : String} (h : s.store.Bounded)
    (huses : s.Uses id requestId delta s') : s'.store.Bounded := by
  obtain ⟨_, _, -, _, rfl⟩ := huses
  refine h.of_insert rfl ?_
  intro hpos
  dsimp only at hpos ⊢
  omega

theorem bounded_foldl_write {writes : List (ℤ × SubscriptionWrite)} (h : s.store.Bounded)
    (hwrites : ∀ id sub, (id, .save sub) ∈ writes → sub.amountUsed = 0) :
    (writes.foldl write s).store.Bounded := by
  refine List.foldlRecOn (motive := fun r : SubscriptionSystem P =>
    r.store.Bounded) writes write h ?_
  intro r hr w hw
  refine hr.write fun sub hsub => hwrites w.1 sub ?_
  rw [← hsub]
  exact hw

variable [DecidableEq P]

theorem bounded_of_transition {e : SubscriptionEvent P} (h : s.store.Bounded)
    (hjobs : s.JobsSaveResets) (htr : Transition cal s e s') : s'.store.Bounded := by
  cases htr with
  | charged hdue _ huses => exact bounded_of_uses (s := s.reset _) (h.dueResets hdue) huses
  | settled huses => exact bounded_of_uses h huses
  | refunded _ _ huses =>
    have hbounded := bounded_of_uses h huses
    exact hbounded
  | reset hdue => exact h.dueResets hdue
  | committed hjob => exact bounded_foldl_write h (hjobs _ _ hjob)
  | created => exact h.of_insert rfl fun hpos => hpos.le
  | _ => exact h

end SubscriptionSystem

/-- **The total is never exceeded**, nor is the used amount ever negative. -/
theorem subscriptionUsage_bounded {P : Type} [DecidableEq P] (cal : Calendar) (store : Store)
    (hstore : ∀ id sub, store.subs.lookup id = some sub → 0 < sub.amountTotal →
      (sub.amountUsed : ℤ) ≤ sub.amountTotal) (es : List (SubscriptionEvent P)) :
    ∀ id sub, (es.foldl (step cal) (.init store)).store.subs.lookup id = some sub →
        0 < sub.amountTotal → 0 ≤ (sub.amountUsed : ℤ) ∧
        (sub.amountUsed : ℤ) ≤ sub.amountTotal := by
  have hstep : ∀ (s : SubscriptionSystem P) (e : SubscriptionEvent P),
      s.store.Bounded ∧ s.JobsSaveResets →
        (s.step cal e).store.Bounded ∧ (s.step cal e).JobsSaveResets := by
    rintro s e ⟨hbounded, hjobs⟩
    have htr := step_transition cal s e
    exact ⟨bounded_of_transition hbounded hjobs htr, hjobs.transition htr⟩
  have hinit : (init store : SubscriptionSystem P).store.Bounded ∧
      (init store : SubscriptionSystem P).JobsSaveResets := by
    refine ⟨hstore, ?_⟩
    intro p job hjob
    cases hjob
  have hrun := Guarded.invariant_of_step hstep es hinit
  intro id sub hsub hpos
  exact ⟨Int.natCast_nonneg _, hrun.1 id sub hsub hpos⟩

def subscribedStore : Store :=
  { empty with
    subs := (∅ : AList fun _ : ℤ => UserSubscription).insert 3
      { userId := 1, planId := 2, amountTotal := 100, amountUsed := 0, startTime := 0,
        endTime := 1000, status := .active, lastResetTime := 0, nextResetTime := 0,
        allowWalletOverflow := false }
    plans := fun _ => some (.ofPeriod "never") }

theorem subscriptionUsage_bounded_of_staleReset :
    let es : List (SubscriptionEvent Unit) := [.start () (.adminResetPlan 2 true) 10 none none,
      .preConsume "a" 1 40 10 {}, .next () none, .commit (), .preConsume "b" 1 90 10 {},
      .refund "a" {}]
    let s := es.foldl (step .utc) (.init subscribedStore)
    (∀ id sub, s.store.subs.lookup id = some sub → 0 < sub.amountTotal →
        0 ≤ (sub.amountUsed : ℤ) ∧ (sub.amountUsed : ℤ) ≤ sub.amountTotal) ∧
      s.store.amountUsed 3 = 50 := by
  refine ⟨subscriptionUsage_bounded .utc subscribedStore ?_ _, by decide +kernel⟩
  intro id sub hsub
  by_cases hid : id = 3
  · subst hid
    cases hsub
    decide
  · rw [subscribedStore, AList.lookup_insert_ne hid] at hsub
    cases hsub

/-! ### What the requests have consumed -/

namespace SubscriptionSystem

variable {P : Type} {cal : Calendar} {s s' : SubscriptionSystem P}

/-- The used amount covers what any requests have consumed since the last reset. -/
def Covers (s : SubscriptionSystem P) : Prop :=
  ∀ id (requests : Finset String), ∑ r ∈ requests, s.consumed id r ≤ s.store.amountUsed id

theorem Covers.reset {now : ℤ} {t : Store} (h : s.Covers) (hdue : DueResets cal now s.store t) :
    (s.reset t).Covers := by
  intro id requests
  unfold SubscriptionSystem.reset
  dsimp only
  by_cases hbegins : s.beginsPeriod t id = true
  · rw [if_pos hbegins, Finset.sum_const_zero]
    exact t.amountUsed_nonneg id
  rw [if_neg hbegins]
  unfold beginsPeriod at hbegins
  rw [hdue.amountUsed_of_periodStart (by simpa using hbegins)]
  exact h id requests

theorem Covers.uses {id delta : ℤ} {requestId : String} (h : s.Covers)
    (huses : s.Uses id requestId delta s')
    (hown : delta < 0 → 0 ≤ s.consumed id requestId + delta) : s'.Covers := by
  intro k requests
  rw [huses.consumed_eq]
  by_cases hk : k = id
  · subst hk
    rw [huses.amountUsed_eq, Function.update_self]
    have hall := h k requests
    by_cases hmem : requestId ∈ requests
    · rw [sum_eq_add_sum_sdiff_singleton_of_mem hmem] at hall
      rw [sum_update_of_mem hmem]
      omega
    -- The others keep what they had, so the request itself must have had enough.
    have hwith := h k (insert requestId requests)
    rw [sum_insert hmem] at hwith
    rw [sum_update_of_notMem hmem]
    omega
  · rw [huses.amountUsed_of_ne hk, Function.update_of_ne hk]
    exact h k requests

theorem Covers.forget (h : s.Covers) (id : ℤ) (requestId : String) :
    (s.forget id requestId).Covers := by
  intro k requests
  unfold SubscriptionSystem.forget
  dsimp only
  by_cases hk : k = id
  · subst hk
    rw [Function.update_self]
    by_cases hmem : requestId ∈ requests
    · rw [Finset.sum_update_of_mem hmem, zero_add]
      exact h k (requests \ {requestId})
    · rw [Finset.sum_update_of_notMem hmem]
      exact h k requests
  · rw [Function.update_of_ne hk]
    exact h k requests

theorem Covers.write {w : ℤ × SubscriptionWrite} (h : s.Covers)
    (hw : ∀ sub, w.2 = .save sub → sub.amountUsed = 0) : (s.write w).Covers := by
  obtain ⟨id, w⟩ := w
  intro k requests
  cases w with
  | save sub =>
    unfold SubscriptionSystem.write
    dsimp only
    rw [if_pos (hw sub rfl)]
    by_cases hk : k = id
    · subst hk
      rw [Function.update_self, Finset.sum_const_zero]
      exact amountUsed_nonneg _ k
    · rw [Function.update_of_ne hk, amountUsed, lookup_write_of_ne hk]
      exact h k requests
  | columns =>
    unfold SubscriptionSystem.write
    rw [amountUsed_write_columns]
    exact h k requests

theorem Covers.foldl_write {writes : List (ℤ × SubscriptionWrite)} (h : s.Covers)
    (hwrites : ∀ id sub, (id, .save sub) ∈ writes → sub.amountUsed = 0) :
    (writes.foldl SubscriptionSystem.write s).Covers := by
  refine List.foldlRecOn (motive := Covers) writes SubscriptionSystem.write h ?_
  intro r hr w hw
  refine hr.write fun sub hsub => hwrites w.1 sub ?_
  rw [← hsub]
  exact hw

/-- A request gives back no more than it has consumed since the last reset. -/
def ReturnsOwn (s : SubscriptionSystem P) : SubscriptionEvent P → Prop
  | .settle requestId id delta _ => delta < 0 → 0 ≤ s.consumed id requestId + delta
  | .refund requestId f =>
    ∀ record ∈ s.store.refundedRecord f requestId,
      record.preConsumed ≤ s.consumed record.userSubscriptionId requestId
  | _ => True

instance (s : SubscriptionSystem P) : DecidablePred s.ReturnsOwn
  | .settle .. => inferInstanceAs (Decidable (_ → _))
  | .refund .. => Option.decidableForallMem _
  | .preConsume .. | .resetDue .. | .start .. | .next .. | .commit _ | .rollback _ | .create ..
  | .setPlans _ =>
    instDecidableTrue

variable [DecidableEq P]

theorem Covers.transition {e : SubscriptionEvent P} (h : s.Covers) (hjobs : s.JobsSaveResets)
    (hown : s.ReturnsOwn e) (htr : Transition cal s e s') : s'.Covers := by
  cases htr with
  | charged hdue hpos huses => exact (h.reset hdue).uses huses fun hneg => absurd hneg hpos.not_gt
  | settled huses => exact h.uses huses hown
  | refunded hrecord _ huses =>
    have hamount := hown _ hrecord
    exact (h.uses huses fun _ => by omega).forget _ _
  | reset hdue => exact h.reset hdue
  | committed hjob => exact h.foldl_write (hjobs _ _ hjob)
  | @created id sub hfresh =>
    intro k requests
    by_cases hk : k = id
    · -- Nothing was consumed of a subscription that did not exist.
      subst hk
      have hnone : s.store.amountUsed k = 0 := by
        rw [amountUsed, hfresh]
      rw [amountUsed_of_lookup (AList.lookup_insert _)]
      exact (h k requests).trans_eq hnone
    · rw [amountUsed, AList.lookup_insert_ne hk]
      exact h k requests
  | _ => exact h

end SubscriptionSystem

/-- **Resets and refunds**: the used amount covers what requests that were not refunded have
consumed since the last reset, if none gives back more than that. -/
theorem subscriptionUsage_covers {P : Type} [DecidableEq P] (cal : Calendar) (store : Store)
    (es : List (SubscriptionEvent P))
    (hown : Guarded (step cal) SubscriptionSystem.ReturnsOwn (.init store) es) :
    let s := es.foldl (step cal) (.init store)
    ∀ id (requests : Finset String), ∑ r ∈ requests, s.consumed id r ≤ s.store.amountUsed id := by
  have hstep : ∀ (s : SubscriptionSystem P) (e : SubscriptionEvent P),
      s.Covers ∧ s.JobsSaveResets → s.ReturnsOwn e →
        (s.step cal e).Covers ∧ (s.step cal e).JobsSaveResets := by
    rintro s e ⟨hcovers, hjobs⟩ hs
    have htr := step_transition cal s e
    exact ⟨hcovers.transition hjobs hs htr, hjobs.transition htr⟩
  have hinit : (init store : SubscriptionSystem P).Covers ∧
      (init store : SubscriptionSystem P).JobsSaveResets := by
    constructor
    · intro id requests
      show ∑ r ∈ requests, (0 : ℤ) ≤ store.amountUsed id
      rw [sum_const_zero]
      exact amountUsed_nonneg store id
    · intro p job hjob
      cases hjob
  exact (Guarded.invariant hstep hinit hown).1

theorem subscriptionUsage_covers_of_onePeriod :
    let es : List (SubscriptionEvent Unit) := [.preConsume "a" 1 40 10 {}, .refund "a" {},
      .start () (.adminResetPlan 2 true) 20 none none, .next () none, .commit (),
      .preConsume "b" 1 30 30 {}, .settle "b" 3 (-10) {}, .preConsume "c" 1 5 30 {}, .refund "c" {}]
    let s := es.foldl (step .utc) (.init subscribedStore)
    (∀ id (requests : Finset String), ∑ r ∈ requests, s.consumed id r ≤ s.store.amountUsed id) ∧
      s.consumed 3 "b" = 20 ∧ s.store.amountUsed 3 = 20 :=
  ⟨subscriptionUsage_covers .utc subscribedStore _ (by decide +kernel), by decide +kernel⟩

/-- Request `a` is refunded after a reset: its 40 are taken off the 30 of request `b`. -/
theorem subscriptionUsage_erased_by_refund : let es : List (SubscriptionEvent Unit) :=
      [.preConsume "a" 1 40 10 {}, .start () (.adminResetPlan 2 true) 20 none none, .next () none,
        .commit (), .preConsume "b" 1 30 30 {}, .refund "a" {}]
    let s := es.foldl (step .utc) (.init subscribedStore)
    s.consumed 3 "b" = 30 ∧ s.store.amountUsed 3 = 0 := by
  decide +kernel

end TokensFlux
