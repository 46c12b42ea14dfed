import TokensFlux.Billing.Equiv.Posting
import TokensFlux.Task.Billing

/-!
# What task billing posts

What a refund or a recalculation does to the account of the funding source (`Task.fundingAccount`),
which takes it if the amount is one that it `Accepts`.
-/

namespace TokensFlux

open Store

def Task.fundingAccount (t : Task) : Account :=
  if t.isSubscription then .subscription t.subscriptionId else .wallet t.userId

/-- A wallet takes any charge, a subscription one that does not pass its total. -/
def Task.Accepts (t : Task) (s : Store) (delta : ℤ) : Prop :=
  t.isSubscription = true → match s.subs.lookup t.subscriptionId with
    | some sub => sub.amountTotal ≤ 0 ∨ sub.amountUsed + delta ≤ sub.amountTotal
    | none => False

instance (t : Task) (s : Store) (delta : ℤ) : Decidable (t.Accepts s delta) :=
  match h : s.subs.lookup t.subscriptionId with
  | some sub =>
    decidable_of_iff (t.isSubscription = true →
      sub.amountTotal ≤ 0 ∨ sub.amountUsed + delta ≤ sub.amountTotal) (by rw [Task.Accepts, h])
  | none => decidable_of_iff (t.isSubscription = true → False) (by rw [Task.Accepts, h])

variable {s : Store} {t : Task}

theorem taskAdjustFunding_isOk {delta : ℤ} (h : t.Accepts s delta) :
    ∃ s', taskAdjustFunding s {} t delta = .ok s' := by
  unfold taskAdjustFunding
  by_cases hsub : t.isSubscription = true
  · rw [if_pos hsub]
    have haccepts := h hsub
    split at haccepts
    · rename_i sub hlookup
      have hid : 0 < t.subscriptionId := by
        rw [Task.isSubscription, Bool.and_eq_true, decide_eq_true_eq, decide_eq_true_eq] at hsub
        exact hsub.2
      exact postConsumeUserSubscriptionDelta_isOk hid hlookup haccepts
    · exact absurd haccepts id
  split_ifs with hpos
  · exact decreaseUserQuota_isOk s hpos.le false
  · exact increaseUserQuota_isOk s (by omega) false

theorem refundTaskQuota_of_accepts (hquota : t.quota ≠ 0) (h : t.Accepts s (-t.quota)) :
    (refundTaskQuota s {} t).2 = some (-t.quota) := by
  obtain ⟨s', hs'⟩ := taskAdjustFunding_isOk h
  unfold refundTaskQuota
  rw [if_neg hquota, hs']

/-! ### The account of a task -/

def Task.Uncut (t : Task) (s : Store) (delta : ℤ) : Prop :=
  t.isSubscription = true → 0 ≤ s.amountUsed t.subscriptionId + delta

instance (t : Task) (s : Store) (delta : ℤ) : Decidable (t.Uncut s delta) :=
  inferInstanceAs (Decidable (_ → _))

theorem Task.fundingAccount_ne (t : Task) (id : ℤ) :
    t.fundingAccount ≠ .token id ∧ t.fundingAccount ≠ .tokenUsed id ∧
      t.fundingAccount ≠ .userUsed id := by
  unfold Task.fundingAccount
  split_ifs <;> simp

/-- The funding source alone is posted to. -/
theorem taskAdjustFunding_ledger {s' : Store} {f : TaskFaults} {delta : ℤ}
    (h : taskAdjustFunding s f t delta = .ok s') (hcut : t.Uncut s delta) :
    s'.ledger = s.ledger + accountPosting t.fundingAccount delta := by
  rw [accountPosting_apply]
  unfold taskAdjustFunding at h
  unfold Task.fundingAccount
  split_ifs at h ⊢ with hsub
  · exact postConsumeUserSubscriptionDelta_ledger h (hcut hsub)
  · exact (decreaseUserQuota_spec h).1
  · exact (increaseUserQuota_spec h).1

theorem taskAdjustTokenQuota_ledger (t : Task) (s : Store) (f : TaskFaults) (delta : ℤ) :
    (taskAdjustTokenQuota s f t delta).ledger t.fundingAccount = s.ledger t.fundingAccount := by
  have hne := t.fundingAccount_ne t.tokenId
  have hkeep : ∀ n m, (s.ledger + (Pi.single (.token t.tokenId) n
      + Pi.single (.tokenUsed t.tokenId) m : Account → ℤ)) t.fundingAccount =
        s.ledger t.fundingAccount := by
    intro n m
    rw [Pi.add_apply, Pi.add_apply, Pi.single_eq_of_ne hne.1, Pi.single_eq_of_ne hne.2.1,
      add_zero, add_zero]
  unfold taskAdjustTokenQuota
  split_ifs
  · rfl
  · cases hdec : s.decreaseTokenQuota f.token t.tokenId delta with
    | error => rfl
    | ok s' =>
      show s'.ledger t.fundingAccount = _
      rw [(decreaseTokenQuota_spec hdec).1, hkeep]
  cases hinc : s.increaseTokenQuota f.token t.tokenId (-delta) with
  | error => rfl
  | ok s' =>
    show s'.ledger t.fundingAccount = _
    rw [(increaseTokenQuota_spec hinc).1, hkeep]

/-- **`RefundTaskQuota`**, if the funding source takes it in full. -/
theorem refundTaskQuota_ledger (h : t.quota ≠ 0 → t.Accepts s (-t.quota) ∧ t.Uncut s (-t.quota)) :
    (refundTaskQuota s {} t).1.ledger t.fundingAccount = s.ledger t.fundingAccount + t.quota := by
  unfold refundTaskQuota
  by_cases hquota : t.quota = 0
  · rw [if_pos hquota, hquota, add_zero]
  obtain ⟨haccepts, hcut⟩ := h hquota
  obtain ⟨s', hs'⟩ := taskAdjustFunding_isOk haccepts
  rw [if_neg hquota, hs']
  show (recordTaskBillingLog _ t .refund t.quota).ledger t.fundingAccount = _
  rw [recordTaskBillingLog, ledger_recordLog, taskAdjustTokenQuota_ledger,
    taskAdjustFunding_ledger hs' hcut, accountPosting_apply, neg_neg, Pi.add_apply,
    Pi.single_eq_same]

/-- **`RecalculateTaskQuota`** takes from the funding source what it adds to the quota of the
task. -/
theorem recalculateTaskQuota_ledger {actualQuota : ℤ}
    (hcut : 0 < actualQuota → t.Uncut s (actualQuota - t.quota)) :
    (recalculateTaskQuota s {} t t actualQuota).row.fundingAccount = t.fundingAccount ∧
      (recalculateTaskQuota s {} t t actualQuota).billing.ledger t.fundingAccount =
      s.ledger t.fundingAccount
          - ((recalculateTaskQuota s {} t t actualQuota).row.quota - t.quota) := by
  have hkept : s.ledger t.fundingAccount = s.ledger t.fundingAccount - (t.quota - t.quota) := by
    rw [sub_self, sub_zero]
  unfold recalculateTaskQuota
  by_cases hnone : actualQuota ≤ 0 ∨ actualQuota - t.quota = 0
  · rw [if_pos hnone]
    exact ⟨rfl, hkept⟩
  rw [if_neg hnone]
  rcases hadjust : taskAdjustFunding s {} t (actualQuota - t.quota) with _ | s₁
  · exact ⟨rfl, hkept⟩
  refine ⟨rfl, ?_⟩
  -- The token, the counters and the log are other accounts.
  have hfunding : s₁.ledger t.fundingAccount =
      s.ledger t.fundingAccount - (actualQuota - t.quota) := by
    have huncut : t.Uncut s (actualQuota - t.quota) := hcut (by omega)
    rw [taskAdjustFunding_ledger hadjust huncut, accountPosting_apply, Pi.add_apply,
      Pi.single_eq_same, ← sub_eq_add_neg]
  have hused := (t.fundingAccount_ne t.userId).2.2
  show ledger (if _ then _ else _) t.fundingAccount =
    s.ledger t.fundingAccount - (actualQuota - t.quota)
  rw [← hfunding]
  split_ifs
  · rw [recordTaskBillingLog, ledger_recordLog, (updateChannelUsedQuota_spec _ _ _ _).1,
      (updateUserUsedQuotaAndRequestCount_spec _ _ _).1, Pi.add_apply, Pi.single_eq_of_ne hused,
      add_zero, taskAdjustTokenQuota_ledger]
  · rw [recordTaskBillingLog, ledger_recordLog, taskAdjustTokenQuota_ledger]

/-! ### Settlements -/

/-- Everything as it was, or the funding source charged and the copy, and unless that fails the row,
moved to the new quota. -/
inductive SettleOutcome (row task : Task) : TaskSettled → Prop
  | kept (s : Store) : SettleOutcome row task ⟨s, row, task, none⟩
  | moved (s : Store) (row' : Task) (actualQuota : ℤ) (positive : 0 < actualQuota)
      (stored : row' = row ∨ row' = { row with quota := actualQuota }) :
      SettleOutcome row task ⟨s, row', { task with quota := actualQuota },
        some (actualQuota - task.quota)⟩

theorem recalculateTaskQuota_outcome (s : Store) (f : TaskFaults) (row task : Task)
    (actualQuota : ℤ) : SettleOutcome row task (recalculateTaskQuota s f row task actualQuota) := by
  unfold recalculateTaskQuota
  by_cases hnone : actualQuota ≤ 0 ∨ actualQuota - task.quota = 0
  · rw [if_pos hnone]
    exact .kept s
  rw [if_neg hnone]
  obtain _ | _ := taskAdjustFunding s f task (actualQuota - task.quota)
  · exact .kept s
  apply SettleOutcome.moved
  · omega
  · cases f.updateQuota with
    | some => exact .inl rfl
    | none => exact .inr rfl

theorem settleTaskBillingOnComplete_outcome (env : TaskEnv) (s : Store) (f : TaskFaults)
    (row task : Task) (taskResult : TaskInfo) :
    SettleOutcome row task (settleTaskBillingOnComplete env s f row task taskResult) := by
  unfold settleTaskBillingOnComplete recalculateTaskQuotaByTokens
  split_ifs
  · exact .kept s
  · exact recalculateTaskQuota_outcome s f row task _
  · exact .kept s
  · cases quotaByTokens env task taskResult.totalTokens with
    | none => exact .kept s
    | some actualQuota => exact recalculateTaskQuota_outcome s f row task actualQuota
  · exact .kept s

def TaskEnv.sample : TaskEnv where
  getModelRatio _ := none
  getGroupRatio _ := 1
  getGroupGroupRatio _ _ := none
  getUserGroup _ := none
  adjustBillingOnComplete _ _ := 0
  buildProxyUrl taskId := taskId

end TokensFlux
