import Mathlib.Data.Fintype.Basic
import TokensFlux.Lib.Guarded
import TokensFlux.Midjourney.Basic

/-!
# Failed Midjourney tasks are refunded once

The compare-and-swap keeps two pollers apart only where the status changes, and an item may report a
failure under the status the row has already.

* `Settled`: the row is complete and no poller that still waits for its item has a copy of its
  status.  Such a row is not refunded any more, since every poller loses the compare-and-swap.
* `RefundsSafely`: each copy gets one item, and what fails a task gives it a status that no waiting
  copy has.
* `refunds_once`: a refund under these conditions leads to a settled row, which stays settled.
-/

namespace TokensFlux

open MjSystem

/-- A reason before the end, or the status of a failure at the end. -/
def MidjourneyDto.ReportsFailure (item : MidjourneyDto) : Prop :=
  item.progress ≠ "100%" ∧ item.failReason ≠ "" ∨ item.progress = "100%" ∧ item.status = "FAILURE"

instance (item : MidjourneyDto) : Decidable item.ReportsFailure := instDecidableOr

namespace Midjourney

/-! ### One item -/

theorem hasFailed_apply {task : Midjourney} {item : MidjourneyDto} :
    (task.apply item).hasFailed = true ↔ item.ReportsFailure := by
  simp only [hasFailed, Bool.or_eq_true, Bool.and_eq_true, decide_eq_true_eq]
  exact Iff.rfl

def SameTask (t t' : Midjourney) : Prop :=
  t.userId = t'.userId ∧ t.mjId = t'.mjId ∧ t.quota = t'.quota

theorem applyItem_sameTask (task : Midjourney) (item : MidjourneyDto) :
    (task.applyItem item).1.SameTask task := by
  unfold applyItem
  dsimp only
  split_ifs <;> exact ⟨rfl, rfl, rfl⟩

/-- A failed task is complete, under the status of the item. -/
theorem applyItem_failed {task : Midjourney} {item : MidjourneyDto}
    (h : (task.applyItem item).2 = true) : item.ReportsFailure ∧
      (task.applyItem item).1.progress = "100%" ∧ (task.applyItem item).1.status = item.status := by
  unfold applyItem at h ⊢
  dsimp only at h ⊢
  split_ifs at h ⊢ with hfailed
  · exact ⟨hasFailed_apply.mp hfailed, rfl, rfl⟩

/-- What an item does, with the one-hour rule applied to it. -/
inductive PollOutcome (row task : Midjourney) (item : MidjourneyDto) : Polled → Prop
  | lost (new : Midjourney) (same : new.SameTask task) : PollOutcome row task item ⟨row, new, false⟩
  | won (new : Midjourney) (returns : Bool) (same : new.SameTask task)
      (won : row.status = task.status)
      (failed : returns = true → item.ReportsFailure ∧ new.progress = "100%" ∧
        new.status = item.status) :
      PollOutcome row task item ⟨new, new, returns⟩

/-- One item about a task, by the guarded update of its row. -/
theorem poll_outcome (row task : Midjourney) (item : MidjourneyDto) (now : ℤ) (fault : Option Err) :
    PollOutcome row task (task.timeout item now) (row.poll task item now fault) := by
  unfold poll
  dsimp only
  generalize task.timeout item now = item
  split_ifs
  · exact .lost task ⟨rfl, rfl, rfl⟩
  have hsame := task.applyItem_sameTask item
  cases fault with
  | some => exact .lost _ hsame
  | none =>
    unfold updateWithStatus
    split_ifs with hwon
    · apply PollOutcome.won _ _ hsame hwon
      intro hreturns
      apply applyItem_failed
      simpa using hreturns
    · exact .lost _ hsame

theorem bulkFail_invariant {P : Midjourney → Prop} {row : Midjourney} (h : P row)
    (fault : Option Err) (failReason : Option String) (hfail : P (row.bulkFail none failReason)) :
    P (row.bulkFail fault failReason) := by
  cases fault with
  | some => exact h
  | none => exact hfail

end Midjourney

namespace MjSystem

variable {W : Type} {toLower : String → String} {s : MjSystem W}

/-! ### Steps of the system -/

theorem refund_credited (s : MjSystem W) (fault : Option Err) (task : Midjourney) :
    (s.refund toLower fault task).credited = s.credited + task.quota ∨
      (s.refund toLower fault task).credited = s.credited := by
  unfold refund
  dsimp only
  cases hincrease : s.billing.increaseUserQuota fault task.userId task.quota false with
  | error =>
    right
    rw [sub_self, add_zero]
  | ok =>
    rw [(Store.increaseUserQuota_spec hincrease).1, Pi.add_apply, Pi.single_eq_same]
    omega

variable [DecidableEq W]

inductive StepOutcome (toLower : String → String) (s : MjSystem W) : MjEvent W → MjSystem W → Prop
  | idle (e : MjEvent W) : StepOutcome toLower s e s
  | load (w : W) (incomplete : s.row.progress ≠ "100%") :
      StepOutcome toLower s (.load w)
        { s with
          copies := Function.update s.copies w (some s.row)
          polled := Function.update s.polled w false }
  | kept (w : W) (item : MidjourneyDto) (now : ℤ) (fault refundFault : Option Err)
      (task : Midjourney) (copy : s.copies w = some task) (named : task.mjId ≠ "")
      (asked : task.mjId = item.mjId) (returns : (s.row.poll task item now fault).returns = false) :
      StepOutcome toLower s (.item w item now fault refundFault)
        (s.polledBy w (s.row.poll task item now fault))
  | returned (w : W) (item : MidjourneyDto) (now : ℤ) (fault refundFault : Option Err)
      (task : Midjourney) (copy : s.copies w = some task) (named : task.mjId ≠ "")
      (asked : task.mjId = item.mjId) (returns : (s.row.poll task item now fault).returns = true) :
      StepOutcome toLower s (.item w item now fault refundFault)
        ((s.polledBy w (s.row.poll task item now fault)).refund toLower refundFault
          (s.row.poll task item now fault).task)
  | failed (e : MjEvent W) (fault : Option Err) (failReason : Option String)
      (bulk : (∃ w, e = .failNull w fault) ∨ ∃ channelId, e = .failChannel channelId fault) :
      StepOutcome toLower s e { s with row := s.row.bulkFail fault failReason }
  | other (billing : Store) : StepOutcome toLower s (.other billing) { s with billing }

/-- **All that an event may do.** -/
theorem step_outcome (toLower : String → String) (s : MjSystem W) (e : MjEvent W) :
    StepOutcome toLower s e (s.step toLower e) := by
  cases e with
  | load w =>
    rw [step]
    by_cases hincomplete : s.row.progress ≠ "100%"
    · rw [if_pos hincomplete]
      exact .load w hincomplete
    · rw [if_neg hincomplete]
      exact .idle _
  | item w item now fault refundFault =>
    rw [step]
    split
    · exact .idle _
    rename_i task hcopy
    by_cases hskip : task.mjId = "" ∨ task.mjId ≠ item.mjId
    · rw [if_pos hskip]
      exact .idle _
    rw [if_neg hskip]
    rw [not_or, not_not] at hskip
    dsimp only
    split_ifs with hreturns
    · exact .returned w item now fault refundFault task hcopy hskip.1 hskip.2 hreturns
    · exact .kept w item now fault refundFault task hcopy hskip.1 hskip.2
        (Bool.eq_false_iff.mpr hreturns)
  | failNull w fault =>
    rw [step]
    split
    · exact .idle _
    split_ifs
    · exact .failed _ fault none (.inl ⟨w, rfl⟩)
    · exact .idle _
  | failChannel channelId fault => exact .failed _ fault _ (.inr ⟨channelId, rfl⟩)
  | other billing => exact .other billing

def SameTasks (t : Midjourney) (s : MjSystem W) : Prop :=
  s.row.SameTask t ∧ ∀ w task, s.copies w = some task → task.SameTask t

omit [DecidableEq W] in
theorem SameTasks.of_poll {t task : Midjourney} (h : s.SameTasks t) {w : W}
    (hcopy : s.copies w = some task) (item : MidjourneyDto) (now : ℤ) (fault : Option Err) :
    (s.row.poll task item now fault).row.SameTask t ∧
      (s.row.poll task item now fault).task.SameTask t := by
  have htask := h.2 w task hcopy
  have hout := Midjourney.poll_outcome s.row task item now fault
  generalize s.row.poll task item now fault = p at hout ⊢
  have hnew : ∀ new : Midjourney, new.SameTask task → new.SameTask t := by
    rintro new ⟨huser, hid, hquota⟩
    exact ⟨huser.trans htask.1, hid.trans htask.2.1, hquota.trans htask.2.2⟩
  cases hout with
  | lost new same => exact ⟨h.1, hnew new same⟩
  | won new _ same => exact ⟨hnew new same, hnew new same⟩

/-- Row and copies stay versions of one task. -/
theorem SameTasks.step {t : Midjourney} (h : s.SameTasks t) (e : MjEvent W) :
    (s.step toLower e).SameTasks t := by
  have hupdate : ∀ {w : W} {new : Midjourney}, new.SameTask t → ∀ w' task,
      Function.update s.copies w (some new) w' = some task → task.SameTask t := by
    intro w new hnew
    apply forall_update fun w' task _ => h.2 w' task
    rintro _ ⟨⟩
    exact hnew
  have hout := step_outcome toLower s e
  generalize s.step toLower e = s' at hout ⊢
  cases hout with
  | idle | other => exact h
  | load => exact ⟨h.1, hupdate h.1⟩
  | kept _ item now fault _ _ copy =>
    obtain ⟨hrow, htask⟩ := h.of_poll copy item now fault
    exact ⟨hrow, hupdate htask⟩
  | returned _ item now fault _ _ copy =>
    obtain ⟨hrow, htask⟩ := h.of_poll copy item now fault
    exact ⟨hrow, hupdate htask⟩
  | failed _ fault failReason =>
    exact ⟨Midjourney.bulkFail_invariant (P := (·.SameTask t)) h.1 fault failReason h.1, h.2⟩

/-- No refund is more than the quota of the task. -/
theorem credited_le_step {t : Midjourney} (ht : 0 ≤ t.quota) (hsame : s.SameTasks t)
    (h : s.credited ≤ s.increases * t.quota) (e : MjEvent W) :
    (s.step toLower e).credited ≤ (s.step toLower e).increases * t.quota := by
  have hout := step_outcome toLower s e
  generalize s.step toLower e = s' at hout ⊢
  cases hout with
  | idle | load | kept | failed | other => exact h
  | returned w item now fault refundFault task copy =>
    obtain ⟨-, -, -, hquota⟩ := hsame.of_poll copy item now fault
    generalize s.row.poll task item now fault = p at hquota ⊢
    generalize hs' : s.polledBy w p = s'
    have hcredited : s'.credited = s.credited := by
      rw [← hs']
      rfl
    have hincreases : s'.increases = s.increases := by
      rw [← hs']
      rfl
    have hcount : (s'.refund toLower refundFault p.task).increases = s.increases + 1 := by
      rw [← hincreases]
      rfl
    rw [hcount, Nat.cast_add, Nat.cast_one, add_mul, one_mul]
    rcases s'.refund_credited refundFault p.task with hrefund | hrefund
    · rw [hrefund, hcredited, hquota]
      omega
    · omega

/-! ### The gate -/

def Complete (s : MjSystem W) : Prop := s.row.progress = "100%"

/-- No poller that has not had an item for its copy has one of that status. -/
def NoneWaits (s : MjSystem W) (p : W → Prop) (status : String) : Prop :=
  ∀ w, p w → ∀ copy ∈ s.copies w, s.polled w = false → copy.status ≠ status

/-- A poller gets one item for a copy, and an item that reports a failure gives the task a status
that no other copy has that waits for its item.  So does the bulk failure of a complete task. -/
def RefundsSafely (s : MjSystem W) : MjEvent W → Prop
  | .item w item now _ _ => ∀ task ∈ s.copies w, task.mjId = item.mjId → s.polled w = false ∧
      ((task.timeout item now).ReportsFailure → s.NoneWaits (· ≠ w) (task.timeout item now).status)
  | .failNull _ _ | .failChannel _ _ =>
    s.row.progress = "100%" → s.NoneWaits (fun _ => True) "FAILURE"
  | _ => True

instance [Fintype W] (s : MjSystem W) (p : W → Prop) [DecidablePred p] (status : String) :
    Decidable (s.NoneWaits p status) :=
  inferInstanceAs (Decidable (∀ w, p w → ∀ copy ∈ s.copies w,
    s.polled w = false → copy.status ≠ status))

instance [Fintype W] (s : MjSystem W) : ∀ e : MjEvent W, Decidable (s.RefundsSafely e)
  | .item .. => Option.decidableForallMem _
  | .failNull .. | .failChannel .. => inferInstanceAs (Decidable (_ → _))
  | .load _ | .other _ => instDecidableTrue

/-- The row is complete, and no copy that waits for its item has its status. -/
structure Settled (s : MjSystem W) : Prop where
  complete : s.Complete
  waits : s.NoneWaits (fun _ => True) s.row.status

theorem NoneWaits.polledBy {w : W} {status : String} (h : s.NoneWaits (· ≠ w) status)
    (p : Midjourney.Polled) : (s.polledBy w p).NoneWaits (fun _ => True) status := by
  intro w' _ copy hcopy hwaits
  unfold MjSystem.polledBy at hcopy hwaits
  dsimp only at hcopy hwaits
  by_cases hw : w' = w
  · subst hw
    rw [Function.update_self] at hwaits
    cases hwaits
  · rw [Function.update_of_ne hw] at hcopy hwaits
    exact h w' hw copy hcopy hwaits

/-- An item for a copy of another status leaves a settled row as it is. -/
theorem Settled.polledBy (h : s.Settled) {w : W} {task : Midjourney} (copy : s.copies w = some task)
    (hfirst : s.polled w = false) (item : MidjourneyDto) (now : ℤ) (fault : Option Err) :
    (s.row.poll task item now fault).returns = false ∧
      (s.polledBy w (s.row.poll task item now fault)).Settled := by
  have hstatus := h.waits w trivial task copy hfirst
  have hout := Midjourney.poll_outcome s.row task item now fault
  generalize s.row.poll task item now fault = p at hout ⊢
  cases hout with
  | won _ _ _ won => exact absurd won.symm hstatus
  | lost new =>
    exact ⟨rfl, h.complete, NoneWaits.polledBy (fun w' _ => h.waits w' trivial) _⟩

/-- **A safe step returns the quota at most when it settles the row.** -/
theorem refunds_once {e : MjEvent W} (hsafe : s.RefundsSafely e) :
    OnceStep Settled increases s (s.step toLower e) := by
  have hout := step_outcome toLower s e
  generalize s.step toLower e = s' at hout ⊢
  cases hout with
  | idle => exact .refl _ _ _
  | load _ incomplete => exact .inl ⟨rfl, fun hsettled => absurd hsettled.complete incomplete⟩
  | other => exact .inl ⟨rfl, fun hsettled => ⟨hsettled.complete, hsettled.waits⟩⟩
  | kept _ item now fault _ task copy _ asked =>
    refine .inl ⟨rfl, ?_⟩
    intro hsettled
    exact (hsettled.polledBy copy (hsafe task copy asked).1 item now fault).2
  | returned w item now fault _ task copy _ asked returns =>
    obtain ⟨hfirst, hnew⟩ := hsafe task copy asked
    have hopen : ¬s.Settled := by
      intro hsettled
      rw [(hsettled.polledBy copy hfirst item now fault).1] at returns
      cases returns
    refine .inr ⟨hopen, ?_, rfl⟩
    have hpoll := Midjourney.poll_outcome s.row task item now fault
    generalize s.row.poll task item now fault = p at hpoll returns ⊢
    cases hpoll with
    | lost => cases returns
    | won new _ _ _ failed =>
      obtain ⟨hreports, hcomplete, hstatus⟩ := failed returns
      have hnone := hnew hreports
      rw [← hstatus] at hnone
      exact ⟨hcomplete, hnone.polledBy _⟩
  | failed _ fault failReason bulk =>
    refine .inl ⟨rfl, ?_⟩
    intro hsettled
    cases fault with
    | some => exact hsettled
    | none =>
      refine ⟨rfl, ?_⟩
      rcases bulk with ⟨_, rfl⟩ | ⟨_, rfl⟩ <;> exact hsafe hsettled.complete

structure Fresh (s : MjSystem W) : Prop where
  copies : ∀ w, s.copies w = none
  increases : s.increases = 0
  credited : s.credited = 0

end MjSystem

/-- **A failed Midjourney task is refunded once**, through any interleaving of pollers, if each copy
gets one item and a failure gives the task a status that no waiting copy has. -/
theorem midjourneyTask_refundedOnce {W : Type} [DecidableEq W] (toLower : String → String)
    {s : MjSystem W} (hfresh : s.Fresh) {es : List (MjEvent W)}
    (hsafe : Guarded (step toLower) MjSystem.RefundsSafely s es) :
    (es.foldl (step toLower) s).increases ≤ 1 := by
  have hstep : ∀ (t : MjSystem W) (e : MjEvent W), True → t.RefundsSafely e →
      OnceStep MjSystem.Settled increases t (t.step toLower e) := by
    intro t e _ he
    exact refunds_once he
  exact Guarded.atMostOnce (fun _ _ _ => trivial) hstep trivial hfresh.increases hsafe

def Midjourney.sample : Midjourney where
  code := 1
  userId := 1
  action := "IMAGINE"
  mjId := "m"
  channelId := 5
  quota := 10

def MjSystem.sample : MjSystem (Fin 2) where
  billing := Store.empty
  row := .sample
  copies _ := none

theorem midjourneyTask_refundedOnce_of_race : let item : MidjourneyDto :=
      { mjId := "m", status := "FAILURE", progress := "100%", failReason := "banned prompt" }
    let es : List (MjEvent (Fin 2)) :=
      [.load 0, .load 1, .item 0 item 0 none none, .item 1 item 0 none none]
    (es.foldl (step id) .sample).increases ≤ 1 ∧
      (es.foldl (step id) .sample).billing.userQuota 1 = 10 := by
  intro item es
  have hsafe : Guarded (step id) MjSystem.RefundsSafely .sample es := by
    decide +kernel
  exact ⟨midjourneyTask_refundedOnce id ⟨fun _ => rfl, rfl, rfl⟩ hsafe, by decide +kernel⟩

/-- The upstream reports a reason but no status, which is the status the row has: both pollers win,
and the 10 are returned twice. -/
theorem midjourneyTask_refunded_twice :
    let item : MidjourneyDto := { mjId := "m", progress := "0%", failReason := "banned prompt" }
    let later : MidjourneyDto := { mjId := "m", progress := "0%", failReason := "prompt is banned" }
    let es : List (MjEvent (Fin 2)) :=
      [.load 0, .load 1, .item 0 item 0 none none, .item 1 later 0 none none]
    (es.foldl (step id) .sample).increases = 2 ∧
      (es.foldl (step id) .sample).billing.userQuota 1 = 20 := by
  decide +kernel

end TokensFlux
