import TokensFlux.Subscription.Equiv.Basic
import TokensFlux.Subscription.Schedule

/-!
# When a row is reset

`dueReset` either resets the used amount, and then a boundary has passed, or it only writes the
schedule.  A sync never runs into the second case, which writes the whole row as well.
-/

namespace TokensFlux

open UserSubscription Option

section

variable {cal : Calendar} {plan : SubscriptionPlan} {sub sub' : UserSubscription}
  {endTime now base next : ℤ} {advanced : Bool}

/-! ### Catching up -/

theorem le_catchUp (h : next ≤ 0 ∨ base ≤ next) :
    base ≤ (catchUp cal plan endTime now base next advanced).1 := by
  fun_induction catchUp cal plan endTime now base next advanced with
  | case1 base next advanced hdue ih =>
    have hnext := calcNextResetTime_eq_zero_or_lt cal next plan endTime
    omega
  | case2 base next advanced hdue => exact le_rfl

theorem catchUp_of_advanced (h : advanced = true) :
    (catchUp cal plan endTime now base next advanced).2.2 = true := by
  fun_induction catchUp cal plan endTime now base next advanced with
  | case1 base next advanced hdue ih => exact ih rfl
  | case2 base next advanced hdue => exact h

theorem catchUp_of_due (cal : Calendar) (plan : SubscriptionPlan) (endTime base : ℤ)
    (advanced : Bool) (h : 0 < next ∧ next ≤ now) :
    next ≤ (catchUp cal plan endTime now base next advanced).1 ∧
      (catchUp cal plan endTime now base next advanced).2.2 = true := by
  have hnext := calcNextResetTime_eq_zero_or_lt cal next plan endTime
  rw [catchUp, if_pos h]
  exact ⟨le_catchUp (by omega), catchUp_of_advanced rfl⟩

theorem catchUp_of_not_due (h : ¬(0 < next ∧ next ≤ now)) :
    catchUp cal plan endTime now base next advanced = (base, next, advanced) := by
  rw [catchUp, if_neg h]

/-! ### Resetting -/

/-- A boundary of the plan lies between the start of the period and `now`. -/
def UserSubscription.Due (cal : Calendar) (sub : UserSubscription) (plan : SubscriptionPlan)
    (now : ℤ) : Prop :=
  0 < calcNextResetTime cal sub.periodStart plan sub.endTime ∧
    calcNextResetTime cal sub.periodStart plan sub.endTime ≤ now

def UserSubscription.SameUsage (sub sub' : UserSubscription) : Prop :=
  ∃ next last, sub' = { sub with nextResetTime := next, lastResetTime := last }

theorem dueReset_eq : dueReset cal sub plan now = if 0 < sub.nextResetTime ∧
      now < sub.nextResetTime then none
      else if normalizeResetPeriod plan.quotaResetPeriod = .never then none
      else
        let r := catchUp cal plan sub.endTime now sub.periodStart
          (calcNextResetTime cal sub.periodStart plan sub.endTime) false
        if !r.2.2 then
          if sub.nextResetTime = 0 ∧ 0 < r.2.1 then
            some { sub with nextResetTime := r.2.1, lastResetTime := r.1 }
          else none
        else some { sub with amountUsed := 0, lastResetTime := r.1, nextResetTime := r.2.1 } :=
  rfl

theorem UserSubscription.periodStart_of_pos (h : 0 < sub.lastResetTime) :
    sub.periodStart = sub.lastResetTime :=
  if_neg (not_le.mpr h)

/-- A reset starts a new period at zero, or only sets the schedule up. -/
theorem dueReset_cases (h : dueReset cal sub plan now = some sub') :
    (¬sub.Due cal plan now ∧ sub.nextResetTime = 0 ∧ sub.SameUsage sub' ∧
      sub'.periodStart = sub.periodStart) ∨
      (sub.Due cal plan now ∧ { sub with amountUsed := 0 }.SameUsage sub' ∧
        sub.periodStart < sub'.periodStart) := by
  rw [dueReset_eq] at h
  split_ifs at h
  by_cases hdue : sub.Due cal plan now
  · right
    have hnext := calcNextResetTime_eq_zero_or_lt cal sub.periodStart plan sub.endTime
    have hcatch := catchUp_of_due cal plan sub.endTime sub.periodStart false hdue
    rw [if_neg (by simp [hcatch.2])] at h
    cases h
    refine ⟨hdue, ⟨_, _, rfl⟩, ?_⟩
    -- The new base is a boundary after the old one, and positive.
    have hfirst := hdue.1
    have hpos := hfirst.trans_le hcatch.1
    calc
      sub.periodStart < calcNextResetTime cal sub.periodStart plan sub.endTime := by omega
      _ ≤ _ := hcatch.1
      _ = _ := Eq.symm (periodStart_of_pos hpos)
  left
  rw [catchUp_of_not_due hdue] at h
  rw [if_pos (by rfl)] at h
  split_ifs at h with hnone
  cases h
  refine ⟨hdue, hnone.1, ⟨_, _, rfl⟩, ?_⟩
  unfold periodStart
  split_ifs with h₁ h₂ <;> rfl

theorem dueReset_of_not_due (hdue : ¬sub.Due cal plan now)
    (h : dueReset cal sub plan now = some sub') :
    sub.SameUsage sub' ∧ sub'.periodStart = sub.periodStart := by
  rcases dueReset_cases h with ⟨-, -, husage, hperiod⟩ | ⟨hdue', -⟩
  · exact ⟨husage, hperiod⟩
  · exact absurd hdue' hdue

/-- **What a sync saves is a reset.** -/
theorem syncUserSubscriptionResetTime_save
    (h : syncUserSubscriptionResetTime cal sub plan now = some (.save sub')) :
    sub.Due cal plan now ∧ sub'.amountUsed = 0 := by
  have hsaved : dueReset cal sub plan now = some sub' →
      (sub.nextResetTime ≠ 0 ∨ sub.Due cal plan now) → sub.Due cal plan now ∧
        sub'.amountUsed = 0 := by
    intro hreset hor
    rcases dueReset_cases hreset with ⟨hnot, hnone, -⟩ | ⟨hdue, ⟨_, _, rfl⟩, -⟩
    · exact absurd hor (by simp [hnone, hnot])
    · exact ⟨hdue, rfl⟩
  unfold syncUserSubscriptionResetTime at h
  dsimp only at h
  split_ifs at h with hnever hzero hpassed hdue
  · cases h
  · rw [map_eq_some_iff] at h
    obtain ⟨row, hrow, hsave⟩ := h
    cases hsave
    exact hsaved hrow (Or.inl (by omega))
  · rw [map_eq_some_iff] at h
    obtain ⟨row, hrow, hsave⟩ := h
    cases hsave
    refine hsaved hrow (Or.inr ?_)
    unfold syncBase at hdue
    split_ifs at hdue with hbase
    · -- The first boundary after `now` has not passed at `now`.
      have := calcNextResetTime_eq_zero_or_lt cal now plan sub.endTime
      omega
    · exact hdue
  all_goals cases h

theorem syncUserSubscriptionResetTime_columns {nextColumn lastColumn : Option ℤ}
    (h : syncUserSubscriptionResetTime cal sub plan now = some (.columns nextColumn lastColumn)) :
    lastColumn = none ∨ lastColumn = some (sub.syncBase now) := by
  unfold syncUserSubscriptionResetTime at h
  dsimp only at h
  -- The two branches that end in a reset save a whole row.
  have hreset : (dueReset cal sub plan now).map SubscriptionWrite.save
      ≠ some (.columns nextColumn lastColumn) := by
    intro hmap
    rw [map_eq_some_iff] at hmap
    obtain ⟨row, -, hrow⟩ := hmap
    cases hrow
  split_ifs at h with hnever hzero hpassed hdue
  · cases h
    exact .inl rfl
  · exact absurd h hreset
  · exact absurd h hreset
  all_goals
    cases h
    simp

def SubscriptionPlan.ofPeriod (quotaResetPeriod : String) : SubscriptionPlan :=
  ⟨"plan", quotaResetPeriod, 0, Int.natCast_nonneg 9223372036⟩

end

namespace Store

variable {cal : Calendar} {s t : Store} {id now : ℤ}

/-! ### Writes -/

theorem plans_write (w : SubscriptionWrite) : (s.write id w).plans = s.plans := by
  unfold write
  split
  · rfl
  · split <;> rfl

theorem lookup_write_of_ne {k : ℤ} (hk : k ≠ id) (w : SubscriptionWrite) :
    (s.write id w).subs.lookup k = s.subs.lookup k := by
  cases w with
  | save => exact AList.lookup_insert_ne hk
  | columns =>
    unfold write
    cases s.subs.lookup id with
    | none => rfl
    | some => exact AList.lookup_insert_ne hk

theorem lookup_write_columns {sub : UserSubscription} (h : s.subs.lookup id = some sub)
    (next last : Option ℤ) :
    (s.write id (.columns next last)).subs.lookup id = some { sub with
        nextResetTime := next.getD sub.nextResetTime
        lastResetTime := last.getD sub.lastResetTime } := by
  unfold write
  rw [h]
  exact AList.lookup_insert _

theorem amountUsed_write_columns (s : Store) (id k : ℤ) (next last : Option ℤ) :
    (s.write id (.columns next last)).amountUsed k = s.amountUsed k := by
  by_cases hk : k = id
  · subst hk
    cases hrow : s.subs.lookup k with
    | none =>
      unfold write
      rw [hrow]
    | some =>
      rw [amountUsed_of_lookup hrow, amountUsed_of_lookup (lookup_write_columns hrow next last)]
  · rw [amountUsed, amountUsed, lookup_write_of_ne hk]

/-! ### The transactions that lock -/

theorem DueResets.amountUsed_of_periodStart (h : DueResets cal now s t)
    (hperiod : (s.subs.lookup id).map periodStart
      = (t.subs.lookup id).map periodStart) : t.amountUsed id = s.amountUsed id := by
  rcases h.row id with hrow | ⟨_, _, _, hsub, -, hdue, hsub'⟩
  · rw [amountUsed, amountUsed, hrow]
  rw [hsub, hsub', map_some, map_some, Option.some.injEq] at hperiod
  rcases dueReset_cases hdue with ⟨-, -, ⟨_, _, rfl⟩, -⟩ | ⟨-, -, _⟩
  · rw [amountUsed_of_lookup hsub, amountUsed_of_lookup hsub']
  · omega

/-- A repeated call changes nothing. -/
theorem preConsumeUserSubscription_cases {f : PreConsumeFaults} {requestId : String}
    {userId amount : ℤ} {s' : Store} {res : SubscriptionPreConsumeResult}
    (h : s.preConsumeUserSubscription cal f requestId userId amount now = .ok (res, s')) :
    ((s.records.lookup requestId).isSome ∧ s' = s) ∨
      (s.records.lookup requestId = none ∧ 0 < amount ∧
        PreConsumes cal requestId userId amount now s res s') := by
  rcases hrecord : s.records.lookup requestId with _ | _
  · obtain ⟨hpos, -, hspec⟩ := preConsumeUserSubscription_spec hrecord h
    exact .inr ⟨rfl, hpos, hspec⟩
  refine .inl ⟨rfl, ?_⟩
  unfold preConsumeUserSubscription at h
  split_ifs at h
  obtain ⟨-, h⟩ := commitTx_ok h
  unfold preConsumeTx at h
  simp only [hrecord] at h
  split at h
  · cases h
  · cases h
  split_ifs at h
  split at h
  · cases h
  · cases h
  · exact (Prod.mk.inj (Except.ok.inj h)).2.symm

theorem resetDueSubscription_spec {f : TxFaults} {planFault : Option Err} :
    DueResets cal now s (s.resetDueSubscription cal f planFault id now) := by
  have hsame := DueResets.refl cal now s
  unfold resetDueSubscription
  split
  · rename_i locked _ _ hlocked
    split_ifs
    · split
      · exact hsame
      rename_i plan hplan
      split
      · exact hsame
      · rename_i sub s' hreset
        obtain ⟨-, hreset⟩ := commitTx_ok hreset
        exact (hsame.maybeReset hlocked hlocked (getSubscriptionPlanById_ok hplan) hreset).1
    · exact hsame
  · exact hsame

theorem markRefunded_store (s : Store) (f : RefundFaults) (requestId : String)
    (record : SubscriptionPreConsumeRecord) :
    ∃ records, (s.markRefunded f requestId record).1 = { s with records } := by
  unfold markRefunded
  split
  · exact ⟨s.records, rfl⟩
  · exact ⟨s.records, rfl⟩
  · exact ⟨_, rfl⟩

theorem refundSubscriptionPreConsume_cases (s : Store) (f : RefundFaults) (requestId : String) :
    (s.refundedRecord f requestId = none ∧
        ∃ records, (s.refundSubscriptionPreConsume f requestId).1 = { s with records }) ∨
      ∃ record s' records, s.refundedRecord f requestId = some record ∧ 0 < record.preConsumed ∧
        s.postConsumeUserSubscriptionDelta f.inner record.userSubscriptionId (-record.preConsumed) =
        .ok s' ∧ (s.refundSubscriptionPreConsume f requestId).1 = { s' with records } := by
  unfold refundSubscriptionPreConsume refundedRecord
  by_cases hblank : trimSpace requestId = ""
  · rw [if_pos hblank, if_pos (Or.inl hblank)]
    exact .inl ⟨rfl, s.records, rfl⟩
  rw [if_neg hblank]
  cases hstart : f.start with
  | some => exact .inl ⟨if_pos (by simp), s.records, rfl⟩
  | none =>
  cases hselect : f.select with
  | some => exact .inl ⟨if_pos (by simp), s.records, rfl⟩
  | none =>
  rw [if_neg (by simp [hblank])]
  rcases hrecord : s.records.lookup requestId with _ | record
  · exact .inl ⟨rfl, s.records, rfl⟩
  dsimp only
  by_cases hrefunded : record.status = .refunded
  · rw [if_pos hrefunded]
    exact .inl ⟨by simp [Option.filter, hrefunded], s.records, rfl⟩
  have hconsumed : record.status = .consumed := by
    cases hstatus : record.status with
    | consumed => rfl
    | refunded => exact absurd hstatus hrefunded
  rw [if_neg hrefunded]
  by_cases hpos : record.preConsumed ≤ 0
  · rw [if_pos hpos]
    refine .inl ⟨?_, markRefunded_store s f requestId record⟩
    simp [Option.filter, hpos]
  rw [if_neg hpos]
  cases hpost : s.postConsumeUserSubscriptionDelta f.inner record.userSubscriptionId
    (-record.preConsumed) with
  | error =>
    refine .inl ⟨?_, s.records, rfl⟩
    simp [Option.filter, hpost, Except.isOk, Except.toBool]
  | ok s' =>
    obtain ⟨records, hmark⟩ := markRefunded_store s' f requestId record
    refine .inr ⟨record, s', records, ?_, not_le.mp hpos, hpost, hmark⟩
    simp [Option.filter, hpost, Except.isOk, Except.toBool, hconsumed, not_le.mp hpos]

end Store

end TokensFlux
