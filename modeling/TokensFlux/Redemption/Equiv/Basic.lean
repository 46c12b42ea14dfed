import TokensFlux.Lib.Guarded
import TokensFlux.Redemption.Basic

/-!
# A redemption code pays once

A credit is committed only when an enabled code becomes used, and a code that is not enabled stays
so unless an edit writes back an older status.
-/

namespace TokensFlux

open List Function

namespace RedemptionSystem

variable {P : Type} [DecidableEq P] {s : RedemptionSystem P} {p : P} {sqlite : Bool}

/-- A transaction that has written holds the row of its code, which is enabled to others. -/
def Held (s : RedemptionSystem P) : Prop :=
  ∀ p c, s.redeems p = some c → c.phase ≠ .loaded →
    s.lock c.id = some p ∧ (s.redemptions c.id).map (·.status) = some .enabled

theorem waits_of_lock {p q : P} {id : ℤ} (h : s.lock id = some q) (hpq : q ≠ p) :
    s.waits p id = true := by
  simp [waits, h, hpq]

theorem Held.release (h : s.Held) (p : P) : (s.release p).Held := by
  intro q c hq hphase
  have hqp : q ≠ p := by
    rintro rfl
    simp [RedemptionSystem.release] at hq
  have hq' : s.redeems q = some c := by
    simpa [RedemptionSystem.release, hqp] using hq
  obtain ⟨hlock, henabled⟩ := h q c hq' hphase
  refine ⟨?_, henabled⟩
  simp [RedemptionSystem.release, hlock, hqp]

theorem Held.advance (h : s.Held) {c : RedeemCall} (hfree : s.waits p c.id = false)
    (henabled : (s.redemptions c.id).map (·.status) = some .enabled) :
    Held { s with
      redeems := update s.redeems p (some c)
      lock := update s.lock c.id (some p) } := by
  intro q c' hq hphase
  dsimp only at hq ⊢
  by_cases hqp : q = p
  · subst hqp
    obtain rfl : c = c' := by simpa using hq
    simp [henabled]
  rw [update_of_ne hqp] at hq
  obtain ⟨hlock, henabled'⟩ := h q c' hq hphase
  have hid : c'.id ≠ c.id := by
    intro hid
    rw [hid] at hlock
    rw [waits_of_lock hlock hqp] at hfree
    cases hfree
  rw [update_of_ne hid]
  exact ⟨hlock, henabled'⟩

theorem Held.replace (h : s.Held) {c : RedeemCall}
    (hc : c.phase = .loaded ∨ ∃ c', s.redeems p = some c' ∧ c'.phase ≠ .loaded ∧ c'.id = c.id) :
    Held { s with redeems := update s.redeems p (some c) } := by
  apply forall_update fun q c₁ _ => h q c₁
  rintro _ ⟨⟩ hphase
  rcases hc with hc | ⟨c', hc', hphase', hid⟩
  · exact absurd hc hphase
  · rw [← hid]
    exact h p c' hc' hphase'

omit [DecidableEq P] in
theorem Held.of_redemptions (h : s.Held) {redemptions : ℤ → Option RedemptionRow}
    (hrows : ∀ id, s.lock id ≠ none → redemptions id = s.redemptions id) :
    Held { s with redemptions } := by
  intro q c hq hphase
  obtain ⟨hlock, henabled⟩ := h q c hq hphase
  refine ⟨hlock, ?_⟩
  dsimp only
  rw [hrows c.id (by simp [hlock])]
  exact henabled

theorem Held.write_release (h : s.Held) {c : RedeemCall} (hc : s.redeems p = some c)
    (hphase : c.phase ≠ .loaded) (now : ℤ) : ((s.write c now).release p).Held := by
  have hlock := (h p c hc hphase).1
  intro q c' hq hphase'
  have hqp : q ≠ p := by
    rintro rfl
    simp [RedemptionSystem.release] at hq
  have hq' : s.redeems q = some c' := by
    simpa [RedemptionSystem.release, write, hqp] using hq
  obtain ⟨hlock', henabled'⟩ := h q c' hq' hphase'
  have hid : c'.id ≠ c.id := by
    intro hid
    rw [hid, hlock] at hlock'
    exact hqp (Option.some.inj hlock').symm
  constructor
  · simp [RedemptionSystem.release, write, hlock', hqp]
  · simpa [RedemptionSystem.release, write, hid] using henabled'

/-! ### What a statement can do -/

inductive Effect (s s' : RedemptionSystem P) : RedemptionEvent P → Prop
  | unseen (e : RedemptionEvent P) (redemptions : s'.redemptions = s.redemptions)
      (userQuota : s'.userQuota = s.userQuota) (payments : s'.payments = s.payments) : Effect s s' e
  | paid (p : P) (c : RedeemCall) (now : ℤ) (enabled : (s.redemptions c.id).map
    (·.status) = some .enabled) (redemptions : s'.redemptions = (s.write c now).redemptions)
      (userQuota : s'.userQuota = (s.write c now).userQuota)
      (payments : s'.payments = (s.write c now).payments) : Effect s s' (.commit p none)
  | edited (p : P) (id : ℤ) (copy : RedemptionRow) (loaded : s.edits p = some (id, copy))
      (unlocked : s.lock id = none)
      (redemptions : s'.redemptions = Function.update s.redemptions id
        ((s.redemptions id).map (·.update copy)))
      (userQuota : s'.userQuota = s.userQuota) (payments : s'.payments = s.payments) :
      Effect s s' (.editWrite p none)

theorem check_ok {row : Option RedemptionRow} {now : ℤ} {redemption : Redemption}
    (h : Redemption.check (row.map (·.toRedemption)) now = .ok redemption) :
    row.map (·.status) = some .enabled := by
  cases row with
  | none => cases h
  | some row =>
    by_cases henabled : row.status = .enabled
    · simp [henabled]
    · simp [Redemption.check, henabled] at h

/-- **One event.** -/
theorem step_spec (h : s.Held) (e : RedemptionEvent P) :
    (s.step sqlite e).Held ∧ Effect s (s.step sqlite e) e := by
  have hkept : s.Held ∧ Effect s s e := ⟨h, .unseen e rfl rfl rfl⟩
  have hreleased (p : P) : (s.release p).Held ∧ Effect s (s.release p) e :=
    ⟨h.release p, .unseen e rfl rfl rfl⟩
  cases e with
  | redeem p key userId now fault =>
    simp only [step]
    by_cases hguard : key = "" ∨ userId = 0 ∨ s.redeems p ≠ none
    · rw [if_pos hguard]
      exact hkept
    rw [if_neg hguard]
    split
    · rename_i id _
      by_cases hwait : (!sqlite && s.waits p id) = true
      · rw [if_pos hwait]
        exact hkept
      rw [if_neg hwait]
      split
      · exact hkept
      rename_i redemption hcheck
      refine ⟨?_, .unseen _ rfl rfl rfl⟩
      cases sqlite with
      | true => exact h.replace (Or.inl rfl)
      | false =>
        exact h.advance (c := ⟨id, redemption, userId, .loaded⟩)
          (by simpa using hwait) (check_ok hcheck)
    · exact hkept
  | mark p now fault =>
    simp only [step]
    split
    · rename_i id redemption userId _
      split_ifs with hfault hwait henabled
      · exact hreleased p
      · exact hkept
      · exact ⟨h.advance (c := ⟨id, redemption, userId, .marked now⟩) (by simpa using hwait)
          henabled, .unseen _ rfl rfl rfl⟩
      · exact hreleased p
    · exact hkept
  | credit p fault =>
    simp only [step]
    split
    · rename_i hcall
      split_ifs with hfault
      · exact hreleased p
      · exact ⟨h.replace (Or.inr ⟨_, hcall, by simp, rfl⟩), .unseen _ rfl rfl rfl⟩
    · exact hkept
  | commit p fault =>
    simp only [step]
    split
    · rename_i hcall
      split_ifs with hfault
      · exact hreleased p
      · obtain rfl : fault = none := by simpa using hfault
        refine ⟨h.write_release hcall (by simp) _, .paid p _ _ ?_ rfl rfl rfl⟩
        exact (h p _ hcall (by simp)).2
    · exact hkept
  | editRead =>
    simp only [step]
    split
    · split_ifs
      · exact ⟨h, .unseen _ rfl rfl rfl⟩
      · exact hkept
    · exact hkept
  | editWrite p fault =>
    simp only [step]
    split
    · exact hkept
    rename_i id copy hcopy
    split_ifs with hfault hlock
    · exact ⟨h, .unseen _ rfl rfl rfl⟩
    · exact hkept
    obtain rfl : fault = none := by simpa using hfault
    refine ⟨?_, .edited p id copy hcopy (by simpa using hlock) rfl rfl rfl⟩
    -- The row of the edit is not locked, so no transaction depends on it.
    have hrows : ∀ k, s.lock k ≠ none →
        update s.redemptions id ((s.redemptions id).map (·.update copy)) k = s.redemptions k := by
      intro k hk
      apply update_of_ne
      rintro rfl
      exact hlock hk
    exact h.of_redemptions hrows

/-! ### Credits -/

def credits (id : ℤ) (s : RedemptionSystem P) : ℕ :=
  (s.payments.filter (·.redemptionId = id)).length

def paidTo (s : RedemptionSystem P) (userId : ℤ) : ℤ :=
  ((s.payments.filter (·.userId = userId)).map (·.quota)).sum

def Used (id : ℤ) (s : RedemptionSystem P) : Prop :=
  (s.redemptions id).map (·.status) = some .used

instance (id : ℤ) (s : RedemptionSystem P) : Decidable (s.Used id) :=
  inferInstanceAs (Decidable ((s.redemptions id).map (·.status) = some .used))

/-- The code was not redeemed since the edit has read it. -/
def SeesUsed (s : RedemptionSystem P) : RedemptionEvent P → Prop
  | .editWrite p none => ∀ c ∈ s.edits p, s.lock c.1 = none → s.Used c.1 → c.2.status = .used
  | _ => True

omit [DecidableEq P] in
theorem Effect.onceStep {s' : RedemptionSystem P} {e : RedemptionEvent P} (h : Effect s s' e)
    (hguard : s.SeesUsed e) (id : ℤ) : OnceStep (Used id) (credits id) s s' := by
  cases h with
  | unseen _ hrows _ hpayments =>
    left
    rw [credits, credits, hpayments, Used, Used, hrows]
    exact ⟨rfl, fun h => h⟩
  | paid _ c _ henabled hrows _ hpayments =>
    have hpaid : s'.payments = s.payments ++ [⟨c.id, c.userId, c.redemption.quota⟩] := hpayments
    by_cases hid : c.id = id
    · subst hid
      right
      obtain ⟨row, hrow, hstatus⟩ := Option.map_eq_some_iff.mp henabled
      refine ⟨?_, ?_, ?_⟩
      · simp [Used, hrow, hstatus]
      · simp [Used, hrows, write, hrow]
      · simp [credits, hpaid, filter_append]
    left
    constructor
    · simp [credits, hpaid, filter_append, hid]
    · simp [Used, hrows, write, Ne.symm hid]
  | edited _ k copy hcopy hunlocked hrows _ hpayments =>
    left
    refine ⟨by rw [credits, credits, hpayments], fun hused => ?_⟩
    by_cases hid : k = id
    · subst hid
      have hstatus : copy.status = .used := hguard (k, copy) hcopy hunlocked hused
      obtain ⟨row, hrow, -⟩ := Option.map_eq_some_iff.mp hused
      simp [Used, hrows, hrow, RedemptionRow.update, hstatus]
    · simpa [Used, hrows, Ne.symm hid] using hused

omit [DecidableEq P] in
theorem Effect.balances {s' : RedemptionSystem P} {e : RedemptionEvent P} (h : Effect s s' e)
    (userId : ℤ) : s'.userQuota userId - s'.paidTo userId =
      s.userQuota userId - s.paidTo userId := by
  cases h with
  | unseen _ _ hquota hpayments => rw [paidTo, paidTo, hquota, hpayments]
  | paid _ c _ _ _ hquota hpayments =>
    have hpaid : s'.payments = s.payments ++ [⟨c.id, c.userId, c.redemption.quota⟩] := hpayments
    by_cases huser : c.userId = userId
    · subst huser
      simp only [paidTo, hpaid, hquota, write, filter_append, map_append, sum_append, update_self]
      simp only [decide_true, filter_cons_of_pos, filter_nil, map_cons, map_nil, sum_cons, sum_nil]
      omega
    · simp [paidTo, hpaid, hquota, write, filter_append, huser, Ne.symm]
  | edited _ _ _ _ _ _ hquota hpayments => rw [paidTo, paidTo, hquota, hpayments]

/-- **A redemption code is credited at most once** in every interleaving in which no edit writes a
code that was redeemed since it has read it. -/
theorem redemption_creditedOnce (sqlite : Bool) {s : RedemptionSystem P}
    (hidle : ∀ p, s.redeems p = none) (hpayments : s.payments = []) {es : List (RedemptionEvent P)}
    (hguarded : Guarded (step sqlite) SeesUsed s es) (id : ℤ) :
    let s' := es.foldl (step sqlite) s
    s'.credits id ≤ 1 ∧ ∀ userId, s'.userQuota userId = s.userQuota userId + s'.paidTo userId := by
  have hheld : s.Held := by
    intro p c hc
    rw [hidle p] at hc
    cases hc
  have hkeeps : ∀ (s : RedemptionSystem P) (e : RedemptionEvent P),
      s.Held → (s.step sqlite e).Held := by
    intro s e hs
    exact (step_spec hs e).1
  have honce : ∀ (s : RedemptionSystem P) (e : RedemptionEvent P), s.Held → s.SeesUsed e →
      OnceStep (Used id) (credits id) s (s.step sqlite e) := by
    intro s e hs he
    exact (step_spec hs e).2.onceStep he id
  constructor
  · exact Guarded.atMostOnce hkeeps honce hheld (by simp [credits, hpayments]) hguarded
  intro userId
  have hbalance : ∀ (s' : RedemptionSystem P) (e : RedemptionEvent P),
      s'.Held ∧ s'.userQuota userId - s'.paidTo userId = s.userQuota userId →
      (s'.step sqlite e).Held ∧ (s'.step sqlite e).userQuota userId
        - (s'.step sqlite e).paidTo userId = s.userQuota userId := by
    rintro s' e ⟨hs', heq⟩
    exact ⟨hkeeps s' e hs', ((step_spec hs' e).2.balances userId).trans heq⟩
  have hrun := Guarded.invariant_of_step hbalance es ⟨hheld, by simp [paidTo, hpayments]⟩
  omega

def sample : RedemptionSystem Bool where
  idOfKey key := if key = "code" then some 1 else none
  redemptions id :=
    if id = 1 then some ⟨⟨.enabled, 100, 0, 0, 0⟩, "gift"⟩ else none
  userQuota _ := 0

def redeemCode (p : Bool) (u : ℤ) : List (RedemptionEvent Bool) :=
  [.redeem p "code" u 10 none, .mark p 10 none, .credit p none, .commit p none]

instance (s : RedemptionSystem P) (e : RedemptionEvent P) : Decidable (s.SeesUsed e) :=
  match e with
  | .editWrite p none => inferInstanceAs (Decidable (∀ c ∈ s.edits p, _))
  | .editWrite _ (some _) | .redeem .. | .mark .. | .credit .. | .commit ..
  | .editRead .. => .isTrue trivial

def renameRead : RedemptionEvent Bool := .editRead true 1 ⟨"new", 100, 0⟩ 10 none

def renameWrite : RedemptionEvent Bool := .editWrite true none

theorem redemption_creditedOnce_of_rename :
    let es := redeemCode true 5 ++ [renameRead, renameWrite] ++ redeemCode false 6
    (es.foldl (step false) sample).credits 1 ≤ 1 :=
  (redemption_creditedOnce false (fun _ => rfl) rfl (by decide) 1).1

/-- The code is redeemed between the read and the write of a rename: the rename enables it again,
and both users are credited. -/
theorem redemption_creditedTwice :
    let es := renameRead :: redeemCode true 5 ++ renameWrite :: redeemCode false 6
    let s' := es.foldl (step false) sample
    s'.credits 1 = 2 ∧ s'.userQuota 5 = 100 ∧ s'.userQuota 6 = 100 := by
  decide

end RedemptionSystem

end TokensFlux
