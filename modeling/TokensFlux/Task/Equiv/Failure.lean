import TokensFlux.Task.Equiv.Polling

/-!
# Failed tasks give the quota back

The bulk updates of a polling pass and the fetch by a user store `FAILURE` and leave the money where
it is.
-/

namespace TokensFlux

def BillingCall.returned (c : BillingCall) : ℤ :=
  max (-c.delta.getD 0) 0

theorem BillingCall.returned_nonneg (c : BillingCall) : 0 ≤ c.returned :=
  le_max_right _ _

variable {p : Polled} {row t t' task : Task}

theorem Task.fundingAccount_congr (h : t.origin = t'.origin) :
    t.fundingAccount = t'.fundingAccount := by
  simp only [Task.origin, TaskOrigin.mk.injEq] at h
  unfold Task.fundingAccount Task.isSubscription
  grind

theorem Task.Accepts.congr {s : Store} {delta : ℤ} (h : t.Accepts s delta)
    (horigin : t'.origin = t.origin) :
    t'.Accepts s delta := by
  simp only [Task.origin, TaskOrigin.mk.injEq] at horigin
  unfold Task.Accepts Task.isSubscription at h ⊢
  grind

/-! ### Who refunds a row that fails -/

theorem VideoOutcome.refunds (h : VideoOutcome row task p) (hquota : task.quota ≠ 0)
    (hfailure : p.row.status = .failure) : row.status = .failure ∨ p.billing = some .refund := by
  have hrefund : ∀ taskResult, videoBilling task.quota taskResult .failure = some .refund := by
    intro taskResult
    simp [videoBilling, hquota]
  cases h with
  | ignored => exact .inl hfailure
  | finished _ taskResult =>
    rw [hfailure]
    exact .inr (hrefund taskResult)
  | unguarded _ _ taskResult _ _ stored =>
    rcases stored with rfl | ⟨-, rfl⟩
    · exact .inl hfailure
    · rw [hfailure]
      exact .inr (hrefund taskResult)

theorem SweepOutcome.refunds (h : SweepOutcome row task p) (hquota : task.quota ≠ 0)
    (hlegacy : task.isLegacy = false) (hfailure : p.row.status = .failure) :
    row.status = .failure ∨ p.billing = some .refund := by
  cases h with
  | ignored => exact .inl hfailure
  | failed => exact .inr (by simp [hlegacy, hquota])

theorem sunoRefunds_of_failure {item : SunoItem}
    (hfailure : (applySunoItem task item).status = .failure) :
    sunoRefunds task item = true := by
  rw [sunoRefunds, Bool.or_eq_true, decide_eq_true_eq]
  exact .inr (decide_eq_true hfailure)

/-! ### What is still held -/

namespace TaskSystem

variable {W : Type} {s : TaskSystem W} {env : TaskEnv} {q : ℤ} {t₀ : Task}

def returnedTo (s : TaskSystem W) (account : Account) : ℤ :=
  ((s.calls.filter (·.task.fundingAccount = account)).map BillingCall.returned).sum

variable {c : BillingCall} {s' : TaskSystem W}

theorem returnedTo_append {account : Account} (h : s'.calls = s.calls ++ [c])
    (hc : c.task.fundingAccount = account) :
    s'.returnedTo account = s.returnedTo account + c.returned := by
  unfold returnedTo
  rw [h, List.filter_append, List.map_append, List.sum_append]
  simp [hc]

def Holds (s : TaskSystem W) (q : ℤ) (t₀ t : Task) : Prop :=
  t.origin = t₀.origin ∧ 0 < t.quota ∧ q ≤ s.returnedTo t₀.fundingAccount + t.quota

theorem Holds.mono (h : s.Holds q t₀ t)
    (hreturned : s.returnedTo t₀.fundingAccount ≤ s'.returnedTo t₀.fundingAccount) :
    s'.Holds q t₀ t :=
  ⟨h.1, h.2.1, by linarith [h.2.2]⟩

theorem Holds.sameAs (h : s.Holds q t₀ t) (hsame : t'.SameAs t) : s.Holds q t₀ t' := by
  refine ⟨hsame.1.trans h.1, ?_, ?_⟩
  · rw [hsame.2]
    exact h.2.1
  · rw [hsame.2]
    exact h.2.2

/-- What has failed, or is to be stored as failed, was given back. -/
structure Covered (s : TaskSystem W) (q : ℤ) (t₀ : Task) : Prop where
  values : s.Values (s.Holds q t₀)
  failed : s.row.status = .failure → q ≤ s.returnedTo t₀.fundingAccount
  saved : ∀ w save, s.saves w = some save → save.task.status = .failure →
    q ≤ s.returnedTo t₀.fundingAccount

theorem Covered.call (h : s.Covered q t₀) (hcopies : s'.copies = s.copies)
    (hsaves : s'.saves = s.saves) (hcalls : s'.calls = s.calls ++ [c])
    (hc : c.task.origin = t₀.origin) (horigin : s'.row.origin = t₀.origin)
    (hquota : 0 < s'.row.quota)
    (hrow : q ≤ s.returnedTo t₀.fundingAccount + c.returned + s'.row.quota)
    (hfailed : s'.row.status = .failure → q ≤ s.returnedTo t₀.fundingAccount + c.returned) :
    s'.Covered q t₀ := by
  have hreturned := returnedTo_append hcalls (Task.fundingAccount_congr hc)
  have hle : s.returnedTo t₀.fundingAccount ≤ s'.returnedTo t₀.fundingAccount := by
    linarith [c.returned_nonneg]
  refine ⟨⟨⟨horigin, hquota, ?_⟩, ?_, ?_⟩, ?_, ?_⟩
  · rw [hreturned]
    exact hrow
  · intro role w t ht
    rw [hcopies] at ht
    exact (h.values.copies role w t ht).mono hle
  · intro w save hsave
    rw [hsaves] at hsave
    exact (h.values.saves w save hsave).mono hle
  · rw [hreturned]
    exact hfailed
  · intro w save hsave hfailure
    rw [hsaves] at hsave
    exact (h.saved w save hsave hfailure).trans hle

theorem Holds.call (hcalls : s'.calls = s.calls ++ [c]) (hc : c.task.origin = t₀.origin)
    (horigin : t.origin = t₀.origin) (hquota : 0 < t.quota)
    (hle : q ≤ s.returnedTo t₀.fundingAccount + c.returned + t.quota) : s'.Holds q t₀ t := by
  refine ⟨horigin, hquota, ?_⟩
  rw [returnedTo_append hcalls (Task.fundingAccount_congr hc)]
  exact hle

theorem Covered.setCopy [DecidableEq W] (h : s.Covered q t₀) {role : Role} {w : W}
    {task : Option Task}
    (htask : ∀ t, task = some t → s.Holds q t₀ t) : (s.setCopy role w task).Covered q t₀ :=
  ⟨h.values.setCopy htask, h.failed, h.saved⟩

section Bill

variable (env : TaskEnv) (h : s.Covered q t₀) (htask : s.Holds q t₀ task) (hp : p.Stores s.row task)
  (haccepts : task.Accepts s.billing (-task.quota))
  (hfail : p.row.status = .failure → s.row.status = .failure ∨ p.billing = some .refund)

include h htask hp haccepts hfail

/-- **Billing keeps the quota covered**, if a row that fails now is refunded. -/
theorem Covered.bill :
    (s.bill env {} p).1.Covered q t₀ ∧ (s.bill env {} p).1.Holds q t₀ (s.bill env {} p).2 ∧
      (p.billing = some .refund → q ≤ (s.bill env {} p).1.returnedTo t₀.fundingAccount) := by
  have hnew : s.Holds q t₀ p.task := htask.sameAs hp.1
  have hrow : s.Holds q t₀ p.row := by
    rcases hp.2 with hp | hp <;> rw [hp]
    · exact h.values.row
    · exact hnew
  -- A row that has failed without a refund had failed before, and was covered then.
  have hkept : p.billing ≠ some .refund → p.row.status = .failure →
      q ≤ s.returnedTo t₀.fundingAccount := by
    intro hdue hfailure
    exact h.failed ((hfail hfailure).resolve_right hdue)
  obtain ⟨horigin, hquota, hheld⟩ := hnew
  obtain ⟨horigin', hquota', hheld'⟩ := hrow
  have hout := bill_outcome env s {} p
  generalize s.bill env {} p = r at hout ⊢
  cases hout with
  | none due =>
    refine ⟨⟨⟨⟨horigin', hquota', hheld'⟩, h.values.copies, h.values.saves⟩, ?_, h.saved⟩,
      ⟨horigin, hquota, hheld⟩, ?_⟩
    · exact hkept (by simp [due])
    · intro hrefund
      rw [due] at hrefund
      cases hrefund
  | refund _ billing =>
    -- The refund returns what the copy holds, and with it all that was not returned yet.
    have hdelta : (refundTaskQuota s.billing {} p.task).2 = some (-p.task.quota) := by
      apply refundTaskQuota_of_accepts hquota.ne'
      rw [hp.1.2]
      exact haccepts.congr hp.1.1
    have hreturned : BillingCall.returned
        ⟨true, p.task, (refundTaskQuota s.billing {} p.task).2⟩ = p.task.quota := by
      rw [hdelta]
      simp [BillingCall.returned, hquota.le]
    refine ⟨h.call rfl rfl rfl horigin horigin' hquota' ?_ ?_,
      Holds.call rfl horigin horigin hquota ?_, fun _ => ?_⟩
    · linarith
    · intro _
      rw [hreturned]
      exact hheld
    · linarith
    · rw [returnedTo_append rfl (Task.fundingAccount_congr horigin), hreturned]
      exact hheld
  | settle _ due _ outcome =>
    have hkept := hkept (by simp [due])
    have hsettle : p.billing ≠ some .refund := by simp [due]
    cases outcome with
    | kept =>
      refine ⟨h.call rfl rfl rfl horigin horigin' hquota' ?_ ?_,
        Holds.call rfl horigin horigin hquota ?_, fun hrefund => absurd hrefund hsettle⟩
      · simpa [BillingCall.returned] using hheld'
      · simpa [BillingCall.returned] using hkept
      · simpa [BillingCall.returned] using hheld
    | moved _ _ actualQuota positive stored =>
      -- What the quota falls by has been returned.
      have hreturned : p.task.quota - actualQuota ≤ BillingCall.returned
          ⟨false, p.task, some (actualQuota - p.task.quota)⟩ := by
        rw [BillingCall.returned, Option.getD_some, neg_sub]
        exact le_max_left _ _
      have hnonneg := BillingCall.returned_nonneg ⟨false, p.task, some (actualQuota - p.task.quota)⟩
      refine ⟨?_, Holds.call rfl horigin horigin positive ?_, fun hrefund => absurd hrefund hsettle⟩
      · rcases stored with rfl | rfl
        · refine h.call rfl rfl rfl horigin horigin' hquota' ?_ ?_
          · linarith
          · intro hfailure
            linarith [hkept hfailure]
        refine h.call rfl rfl rfl horigin horigin' positive ?_ ?_
        · linarith
        · intro hfailure
          linarith [hkept hfailure]
      · linarith

theorem Covered.poll [DecidableEq W] (w : W) : (s.poll env w {} p).Covered q t₀ := by
  obtain ⟨hbill, hkept, -⟩ := h.bill env htask hp haccepts hfail
  apply hbill.setCopy
  intro t ht
  rw [← Option.some.inj ht]
  exact hkept

end Bill

theorem Covered.setRow (h : s.Covered q t₀) (hrow : s.Holds q t₀ row)
    (hfail : row.status = .failure → s.row.status = .failure) : { s with row }.Covered q t₀ :=
  ⟨⟨hrow, h.values.copies, h.values.saves⟩, fun hfailure => h.failed (hfail hfailure), h.saved⟩

variable [DecidableEq W]

/-- No bulk update and no fetch fails a task that has not failed already, no sweep takes it for one
of the old system, and refunds are accepted. -/
def FailureSafe (env : TaskEnv) (s : TaskSystem W) : TaskEvent W → Prop
  | .load _ _ => True
  | .video w _ _ _ f =>
    f = {} ∧ ∀ task ∈ s.copies .poll w, task.Accepts s.billing (-task.quota)
  | .sweep w _ _ _ f =>
    f = {} ∧ ∀ task ∈ s.copies .sweep w,
      task.isLegacy = false ∧ task.Accepts s.billing (-task.quota)
  | .suno w _ f =>
    f = {} ∧ ∀ task ∈ s.copies .poll w, task.Accepts s.billing (-task.quota)
  | .failNull w _ => ∀ task ∈ s.copies .poll w,
      task.getUpstreamTaskId = "" → s.row.status = .failure
  | .failChannel w _ _ => (s.copies .poll w).isSome = true → s.row.status = .failure
  | .fetch w ti _ => ∀ task ∈ s.copies .fetch w, s.row.status = task.status →
      (applyRealtimeResult env task ti).status = .failure → s.row.status = .failure
  | .sunoUpdate _ _ | .other _ => True

instance (s : TaskSystem W) (e : TaskEvent W) : Decidable (s.FailureSafe env e) :=
  match e with
  | .load .. | .sunoUpdate .. | .other _ => instDecidableTrue
  | .video .. | .sweep .. | .suno .. => instDecidableAnd
  | .failNull w _ => Option.decidableForallMem (s.copies .poll w)
  | .failChannel .. => instDecidableForall
  | .fetch w _ _ => Option.decidableForallMem (s.copies .fetch w)

/-- An item about a Suno task leaves the row alone, and refunds what it is to store as failed. -/
theorem Covered.suno (h : s.Covered q t₀) {w : W} (copy : s.copies .poll w = some task)
    (isSuno : task.platform = .suno) (haccepts : task.Accepts s.billing (-task.quota))
    (item : SunoItem) :
    { s.poll env w {} (updateSunoTask s.row task item) with
      saves := Function.update s.saves w (some (sunoSave task item isSuno)) }.Covered q t₀ := by
  have htask := h.values.copies .poll w task copy
  have hstores := updateSunoTask_stores s.row task item
  obtain ⟨hbill, hkept, hrefunded⟩ := h.bill env htask hstores haccepts .inl
  have hpolled := h.poll env htask hstores haccepts .inl w
  have hcopy : (s.bill env {} (updateSunoTask s.row task item)).2 = applySunoItem task item := by
    unfold updateSunoTask TaskSystem.bill
    split_ifs <;> rfl
  rw [hcopy] at hkept
  have hsaves : (s.bill env {} (updateSunoTask s.row task item)).1.saves = s.saves := saves_bill ..
  refine ⟨⟨hpolled.values.row, hpolled.values.copies, ?_⟩, hpolled.failed, ?_⟩
  · apply forall_update fun w' save _ hsave => hbill.values.saves w' save (hsaves ▸ hsave)
    intro save hsave
    cases hsave
    exact hkept
  apply forall_update fun w' save _ hsave => hbill.saved w' save (hsaves ▸ hsave)
  intro save hsave hfailure
  cases hsave
  exact hrefunded (if_pos (sunoRefunds_of_failure hfailure))

theorem Covered.sunoUpdate (h : s.Covered q t₀) {w : W} {save : SunoSave}
    (due : s.saves w = some save) (fault : Option Err) :
    { s with row := s.row.update fault save.task,
             saves := Function.update s.saves w none }.Covered q t₀ := by
  have hrow := update_invariant h.values.row fault fun _ => h.values.saves w save due
  have hfailed := update_invariant (P := fun t => t.status = .failure →
    q ≤ s.returnedTo t₀.fundingAccount)
    h.failed fault fun _ => h.saved w save due
  refine ⟨⟨hrow, h.values.copies, ?_⟩, hfailed, ?_⟩
  · apply forall_update fun w' save _ => h.values.saves w' save
    intro save hsave
    cases hsave
  · apply forall_update fun w' save _ => h.saved w' save
    intro save hsave
    cases hsave

/-- **A safe step keeps the quota covered.** -/
theorem Covered.step (h : s.Covered q t₀) {e : TaskEvent W} (hsafe : s.FailureSafe env e) :
    (s.step env e).Covered q t₀ := by
  -- A bulk failure refunds nobody, so the guard lets it only meet rows that have failed already.
  have hfail : ∀ (fault : Option Err) (failReason : Option String), s.row.status = .failure →
      { s with row := s.row.bulkFail fault failReason }.Covered q t₀ := by
    intro fault failReason hfailure
    apply h.setRow _ fun _ => hfailure
    exact bulkFail_invariant h.values.row fault failReason (h.values.row.sameAs ⟨rfl, rfl⟩)
  have hout := step_outcome env s e
  generalize s.step env e = s' at hout ⊢
  cases hout with
  | idle => exact h
  | load =>
    apply h.setCopy
    intro t ht
    cases ht
    exact h.values.row
  | video w answer now fault _ task _ copy =>
    obtain ⟨rfl, haccepts⟩ := hsafe
    have htask := h.values.copies .poll w task copy
    have hpolled := updateVideoSingleTask_outcome env s.row task answer now fault
    exact h.poll env htask hpolled.stores (haccepts task copy) (hpolled.refunds htask.2.1.ne') w
  | sweep w timeoutMinutes now fault _ task copy =>
    obtain ⟨rfl, haccepts⟩ := hsafe
    have htask := h.values.copies .sweep w task copy
    have hswept := sweepTimedOutTask_outcome s.row task timeoutMinutes now fault
    obtain ⟨hlegacy, haccepts⟩ := haccepts task copy
    have hrefunds := hswept.refunds htask.2.1.ne' hlegacy
    exact (h.bill env htask hswept.stores haccepts hrefunds).1.setCopy (by simp)
  | suno w item _ task copy _ platform =>
    obtain ⟨rfl, haccepts⟩ := hsafe
    exact h.suno copy platform (haccepts task copy) item
  | sunoUpdate w fault save due => exact h.sunoUpdate due fault
  | failNull _ fault task copy blank => exact hfail fault none (hsafe task copy blank)
  | failChannel _ failReason fault _ copy =>
    exact hfail fault (some failReason) (hsafe (by rw [copy]; rfl))
  | fetch w ti fault task _ copy =>
    apply Covered.setCopy _ (by simp)
    have htask := h.values.copies .fetch w task copy
    rcases tryRealtimeFetch_row env s.row task ti fault with hrow | ⟨hwon, hrow⟩ <;> rw [hrow]
    · exact h.setRow h.values.row id
    · exact h.setRow (htask.sameAs ⟨rfl, rfl⟩) (hsafe task copy hwon)
  | other => exact ⟨⟨h.values.row, h.values.copies, h.values.saves⟩, h.failed, h.saved⟩

end TaskSystem

end TokensFlux
