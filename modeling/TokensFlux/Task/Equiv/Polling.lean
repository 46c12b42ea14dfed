import Mathlib.Data.Fintype.Basic
import TokensFlux.Lib.Guarded
import TokensFlux.Task.Polling
import TokensFlux.Task.Equiv.Billing

/-!
# Finished tasks are billed once

A video poll and the sweep compare and swap the status; a Suno poll does not look at it at all, and
refunds before it stores.  Each result is an instance of the at-most-once rule
(`Guarded.atMostOnce`):

* video tasks (`videoTask_billedOnce`): the gate is the status of the row (`video_once`);
* Suno tasks (`sunoTask_refundedOnce`): the gate is the row, or a refund that is not stored yet
  (`suno_once`).
-/

namespace TokensFlux

open TaskSystem Option

/-! ### What a task never changes -/

structure TaskOrigin where
  taskId : String
  platform : TaskPlatform
  userId : ℤ
  group : String
  channelId : ℤ
  originModelName : String
  upstreamTaskId : String
  billingSource : BillingSource
  subscriptionId : ℤ
  tokenId : ℤ
  billingContext : Option TaskBillingContext

def Task.origin (t : Task) : TaskOrigin :=
  ⟨t.taskId, t.platform, t.userId, t.group, t.channelId, t.originModelName, t.upstreamTaskId,
    t.billingSource, t.subscriptionId, t.tokenId, t.billingContext⟩

def Task.SameAs (t t' : Task) : Prop :=
  t.origin = t'.origin ∧ t.quota = t'.quota

/-! ### What the workers do -/

theorem applyVideoResult_sameAs {env : TaskEnv} {task new : Task} {taskResult : TaskInfo} {now : ℤ}
    (h : applyVideoResult env task taskResult now = some new) : new.SameAs task := by
  unfold applyVideoResult at h
  cases hstatus : taskResult.status
  all_goals simp only [hstatus, Option.some.injEq, reduceCtorEq] at h
  all_goals
    subst h
    exact ⟨rfl, rfl⟩

theorem updateWithStatus_ok {row row' t : Task} {fault : Option Err} {fromStatus : TaskStatus}
    {won : Bool} (h : row.updateWithStatus fault t fromStatus = .ok (row', won)) :
    (won = true ∧ row.status = fromStatus ∧ row' = t) ∨ (won = false ∧ row' = row) := by
  cases fault with
  | some => cases h
  | none =>
    have h := Except.ok.inj h
    split_ifs at h with hstatus
    · obtain ⟨rfl, rfl⟩ := Prod.mk.inj h
      exact .inl ⟨rfl, hstatus, rfl⟩
    · obtain ⟨rfl, rfl⟩ := Prod.mk.inj h
      exact .inr ⟨rfl, rfl⟩

/-- What an answer about a video task may do. -/
inductive VideoOutcome (row task : Task) : Polled → Prop
  | ignored (new : Task) (same : new.SameAs task) : VideoOutcome row task ⟨row, new, none⟩
  | finished (new : Task) (taskResult : TaskInfo) (same : new.SameAs task)
      (done : new.status.isDone = true) (won : row.status = task.status) :
      VideoOutcome row task ⟨new, new, videoBilling task.quota taskResult new.status⟩
  /-- The status of the copy is not new, or not final: it is billed whatever became of the row. -/
  | unguarded (row' new : Task) (taskResult : TaskInfo) (same : new.SameAs task)
      (quiet : new.status.isDone = false ∨ task.status = new.status)
      (stored : row' = row ∨ row.status = task.status ∧ row' = new) :
      VideoOutcome row task ⟨row', new, videoBilling task.quota taskResult new.status⟩

variable (env : TaskEnv)

/-- A final status that is new is billed only if the guarded update wins. -/
theorem updateVideoSingleTask_outcome (row task : Task) (answer : VideoAnswer)
    (now : ℤ) (fault : Option Err) :
    VideoOutcome row task (updateVideoSingleTask env row task answer now fault) := by
  unfold updateVideoSingleTask
  cases answer with
  | failed => exact .ignored task ⟨rfl, rfl⟩
  | parsed taskResult data error =>
    dsimp only
    obtain _ | taskResult := videoTaskResult taskResult error
    · exact .ignored _ ⟨rfl, rfl⟩
    dsimp only
    rcases happly : applyVideoResult env { task with data } taskResult now with _ | new
    · exact .ignored _ ⟨rfl, rfl⟩
    dsimp only
    obtain ⟨horigin, hquota⟩ := applyVideoResult_sameAs happly
    have hsame : new.SameAs task := ⟨horigin, hquota⟩
    by_cases hguarded : new.status.isDone ∧ task.snapshot.status ≠ new.status
    · rw [if_pos hguarded]
      rcases hcas : row.updateWithStatus fault new task.snapshot.status with _ | result
      · exact .ignored new hsame
      obtain ⟨row', won⟩ := result
      rcases updateWithStatus_ok hcas with ⟨rfl, hwon, rfl⟩ | ⟨rfl, rfl⟩
      · exact .finished row' taskResult hsame hguarded.1 hwon
      · exact .ignored new hsame
    rw [if_neg hguarded]
    -- Outside the compare-and-swap either the status is not final or it has not changed.
    have hquiet : new.status.isDone = false ∨ task.status = new.status := by
      rw [not_and_or, not_not, Bool.not_eq_true] at hguarded
      exact hguarded
    by_cases hchanged : task.snapshot ≠ new.snapshot
    · rw [if_pos hchanged]
      rcases hcas : row.updateWithStatus fault new task.snapshot.status with _ | result
      · exact .unguarded row new taskResult hsame hquiet (Or.inl rfl)
      obtain ⟨row', won⟩ := result
      -- Whether the swap was won makes no difference to the billing here, only to the row.
      apply VideoOutcome.unguarded row' new taskResult hsame hquiet
      rcases updateWithStatus_ok hcas with ⟨-, hwon, rfl⟩ | ⟨-, rfl⟩
      · exact .inr ⟨hwon, rfl⟩
      · exact .inl rfl
    · rw [if_neg hchanged]
      exact .unguarded row new taskResult hsame hquiet (Or.inl rfl)

/-- What a sweep may do. -/
inductive SweepOutcome (row task : Task) : Polled → Prop
  | ignored (new : Task) (same : new.SameAs task) : SweepOutcome row task ⟨row, new, none⟩
  | failed (new : Task) (same : new.SameAs task) (failure : new.status = .failure)
      (complete : new.progress = "100%") (won : row.status = task.status) :
      SweepOutcome row task ⟨new, new, if !task.isLegacy && task.quota ≠ 0
        then some .refund else none⟩

variable (row task : Task)

/-- The sweep refunds only if its guarded update wins. -/
theorem sweepTimedOutTask_outcome (timeoutMinutes now : ℤ) (fault : Option Err) :
    SweepOutcome row task (sweepTimedOutTask row task timeoutMinutes now fault) := by
  unfold sweepTimedOutTask
  by_cases htime : timeoutMinutes ≤ 0 ∨ now - timeoutMinutes * 60 ≤ task.submitTime
  · rw [if_pos htime]
    exact .ignored task ⟨rfl, rfl⟩
  rw [if_neg htime]
  dsimp only
  generalize (if task.isLegacy = true then _ else _ : String) = failReason
  cases hcas : row.updateWithStatus fault
      { task with status := .failure, progress := "100%", finishTime := now, failReason }
      task.status with
  | error e => exact .ignored _ ⟨rfl, rfl⟩
  | ok result =>
    obtain ⟨_, _⟩ := result
    rcases updateWithStatus_ok hcas with ⟨rfl, hwon, rfl⟩ | ⟨rfl, rfl⟩
    · exact .failed
        { task with status := .failure, progress := "100%", finishTime := now, failReason }
        ⟨rfl, rfl⟩ rfl rfl hwon
    · exact .ignored _ ⟨rfl, rfl⟩

theorem tryRealtimeFetch_row (row task : Task) (ti : TaskInfo) (fault : Option Err) :
    (tryRealtimeFetch env row task ti fault).row = row ∨ row.status = task.status ∧
        (tryRealtimeFetch env row task ti fault).row = applyRealtimeResult env task ti := by
  unfold tryRealtimeFetch
  dsimp only
  split_ifs
  · split
    · rename_i row' won hcas
      rcases updateWithStatus_ok hcas with ⟨-, hwon, rfl⟩ | ⟨-, rfl⟩
      · exact .inr ⟨hwon, rfl⟩
      · exact .inl rfl
    · exact .inl rfl
  · exact .inl rfl

def Polled.Stores (p : Polled) (row task : Task) : Prop :=
  p.task.SameAs task ∧ (p.row = row ∨ p.row = p.task)

theorem VideoOutcome.stores {row task : Task} {p : Polled} (h : VideoOutcome row task p) :
    p.Stores row task := by
  cases h with
  | ignored _ same => exact ⟨same, Or.inl rfl⟩
  | finished _ _ same => exact ⟨same, Or.inr rfl⟩
  | unguarded _ _ _ same _ hstored =>
    refine ⟨same, ?_⟩
    rcases hstored with rfl | ⟨-, rfl⟩
    · exact .inl rfl
    · exact .inr rfl

theorem SweepOutcome.stores {row task : Task} {p : Polled} (h : SweepOutcome row task p) :
    p.Stores row task := by
  cases h with
  | ignored _ same => exact ⟨same, Or.inl rfl⟩
  | failed _ same => exact ⟨same, Or.inr rfl⟩

theorem updateSunoTask_stores (item : SunoItem) : (updateSunoTask row task item).Stores row task :=
  ⟨⟨rfl, rfl⟩, Or.inl rfl⟩

theorem update_invariant {P : Task → Prop} {row : Task} (h : P row)
    (fault : Option Err) {task : Task}
    (htask : fault = none → P task) : P (row.update fault task) := by
  cases fault with
  | some => exact h
  | none => exact htask rfl

theorem bulkFail_invariant {P : Task → Prop} {row : Task} (h : P row) (fault : Option Err)
    (failReason : Option String) (hfail : P (row.bulkFail none failReason)) :
    P (row.bulkFail fault failReason) := by
  cases fault with
  | some => exact h
  | none => exact hfail

/-! ### Steps of the system -/

namespace TaskSystem

variable {W : Type} {env : TaskEnv} {s : TaskSystem W}

inductive BillOutcome (s : TaskSystem W) (f : TaskFaults) (p : Polled) : TaskSystem W × Task → Prop
  | none (due : p.billing = none) : BillOutcome s f p ({ s with row := p.row }, p.task)
  | refund (due : p.billing = some .refund) (billing : Store) : BillOutcome s f p ({ s with
            billing, row := p.row,
            calls := s.calls ++ [⟨true, p.task, (refundTaskQuota s.billing f p.task).2⟩] },
          p.task)
  | settle (taskResult : TaskInfo) (due : p.billing = some (.settle taskResult))
      (settled : TaskSettled) (outcome : SettleOutcome p.row p.task settled) :
      BillOutcome s f p ({ s with
            billing := settled.billing, row := settled.row,
            calls := s.calls ++ [⟨false, p.task, settled.delta⟩] },
          settled.task)

theorem bill_outcome (env : TaskEnv) (s : TaskSystem W) (f : TaskFaults) (p : Polled) :
    BillOutcome s f p (s.bill env f p) := by
  unfold bill
  rcases hdue : p.billing with _ | due
  · exact .none hdue
  cases due with
  | refund => exact .refund hdue _
  | settle taskResult =>
    exact .settle taskResult hdue _ (settleTaskBillingOnComplete_outcome env s.billing f p.row
      p.task taskResult)

theorem bill_spec (env : TaskEnv) (s : TaskSystem W) (f : TaskFaults) (p : Polled) :
    (∃ quota, (s.bill env f p).1.row = { p.row with quota }) ∧
      (∃ quota, (s.bill env f p).2 = { p.task with quota }) ∧ (s.bill env f p).1.copies = s.copies ∧
      (s.bill env f p).1.calls.length = s.calls.length + p.billing.toList.length := by
  have hout := bill_outcome env s f p
  generalize s.bill env f p = r at hout ⊢
  cases hout with
  | none due | refund due => exact ⟨⟨_, rfl⟩, ⟨_, rfl⟩, rfl, by simp [due]⟩
  | settle _ due _ outcome =>
    refine ⟨?_, ?_, rfl, by simp [due]⟩
    · cases outcome with
      | kept => exact ⟨_, rfl⟩
      | moved _ _ _ _ hstored =>
        rcases hstored with h | h <;> rw [h] <;> exact ⟨_, rfl⟩
    · cases outcome with
      | kept | moved => exact ⟨_, rfl⟩

theorem saves_bill (env : TaskEnv) (s : TaskSystem W) (f : TaskFaults) (p : Polled) :
    (s.bill env f p).1.saves = s.saves := by
  have hout := bill_outcome env s f p
  generalize s.bill env f p = r at hout ⊢
  cases hout <;> rfl

/-- The row, its copies and what is still to be stored. -/
structure Values (s : TaskSystem W) (P : Task → Prop) : Prop where
  row : P s.row
  copies : ∀ role w task, s.copies role w = some task → P task
  saves : ∀ w save, s.saves w = some save → P save.task

variable [DecidableEq W] {P : Task → Prop}

theorem copies_setCopy (s : TaskSystem W) (role role' : Role) (w w' : W) (task : Option Task) :
    (s.setCopy role w task).copies role' w' = if role' = role ∧
      w' = w then task else s.copies role' w' := by
  unfold setCopy
  by_cases hrole : role' = role
  · subst hrole
    simp only [Function.update_self, true_and]
    exact Function.update_apply ..
  · simp [hrole]

theorem Values.setCopy (h : s.Values P) {role : Role} {w : W} {task : Option Task}
    (htask : ∀ t, task = some t → P t) : (s.setCopy role w task).Values P := by
  refine ⟨h.row, ?_, h.saves⟩
  intro role' w' t ht
  rw [copies_setCopy] at ht
  split_ifs at ht
  · exact htask t ht
  · exact h.copies role' w' t ht

omit [DecidableEq W] in
theorem Values.bill (hP : ∀ t quota, P t → P { t with quota }) (h : s.Values P) {p : Polled}
    (hrow : P p.row) (f : TaskFaults) : (s.bill env f p).1.Values P := by
  obtain ⟨⟨quota, hbill⟩, -, hcopies, -⟩ := bill_spec env s f p
  refine ⟨?_, ?_, ?_⟩
  · rw [hbill]
    exact hP p.row quota hrow
  · rw [hcopies]
    exact h.copies
  · rw [saves_bill]
    exact h.saves

theorem Values.poll (hP : ∀ t quota, P t → P { t with quota }) (h : s.Values P) {p : Polled}
    (hrow : P p.row) (htask : P p.task) (f : TaskFaults) (w : W) : (s.poll env w f p).Values P := by
  obtain ⟨-, ⟨quota, hbill⟩, -⟩ := bill_spec env s f p
  have hkept : P (s.bill env f p).2 := by
    rw [hbill]
    exact hP p.task quota htask
  apply (h.bill hP hrow f).setCopy
  intro t ht
  rw [← some.inj ht]
  exact hkept

omit [DecidableEq W] in
theorem Values.origin_of_stores {o : TaskOrigin} (h : s.Values fun t => t.origin = o) {p : Polled}
    {role : Role} {w : W} {task : Task} (hcopy : s.copies role w = some task)
    (hp : p.Stores s.row task) : p.row.origin = o ∧ p.task.origin = o := by
  have htask : p.task.origin = o := hp.1.1.trans (h.copies role w task hcopy)
  refine ⟨?_, htask⟩
  rcases hp.2 with hrow | hrow <;> rw [hrow]
  · exact h.row
  · exact htask

/-- The steps of a worker without a copy, or on a task of another platform, are `idle`. -/
inductive StepOutcome (env : TaskEnv) (s : TaskSystem W) : TaskEvent W → TaskSystem W → Prop
  | idle (e : TaskEvent W) : StepOutcome env s e s
  | load (role : Role) (w : W) (loads : (s.row.isUnfinished || role = .fetch) = true) :
      StepOutcome env s (.load role w) (s.setCopy role w (some s.row))
  | video (w : W) (answer : VideoAnswer) (now : ℤ) (fault : Option Err) (f : TaskFaults)
      (task : Task) (name : String) (copy : s.copies .poll w = some task)
      (platform : task.platform = .video name) :
      StepOutcome env s (.video w answer now fault f)
        (s.poll env w f (updateVideoSingleTask env s.row task answer now fault))
  | sweep (w : W) (timeoutMinutes now : ℤ) (fault : Option Err) (f : TaskFaults) (task : Task)
      (copy : s.copies .sweep w = some task) :
      StepOutcome env s (.sweep w timeoutMinutes now fault f)
        ((s.bill env f (sweepTimedOutTask s.row task timeoutMinutes now fault)).1.setCopy .sweep w
          none)
  | suno (w : W) (item : SunoItem) (f : TaskFaults) (task : Task)
      (copy : s.copies .poll w = some task) (ready : s.saves w = none)
      (platform : task.platform = .suno) (needs : taskNeedsUpdate task item = true) :
      StepOutcome env s (.suno w item f)
        { s.poll env w f (updateSunoTask s.row task item) with
          saves := Function.update s.saves w (some (sunoSave task item platform)) }
  | sunoUpdate (w : W) (fault : Option Err) (save : SunoSave) (due : s.saves w = some save) :
      StepOutcome env s (.sunoUpdate w fault)
        { s with
          row := s.row.update fault save.task
          saves := Function.update s.saves w none }
  | failNull (w : W) (fault : Option Err) (task : Task) (copy : s.copies .poll w = some task)
      (blank : task.getUpstreamTaskId = "") :
      StepOutcome env s (.failNull w fault) { s with row := s.row.bulkFail fault none }
  | failChannel (w : W) (failReason : String) (fault : Option Err) (task : Task)
      (copy : s.copies .poll w = some task) :
      StepOutcome env s (.failChannel w failReason fault)
        { s with row := s.row.bulkFail fault (some failReason) }
  | fetch (w : W) (ti : TaskInfo) (fault : Option Err) (task : Task) (name : String)
      (copy : s.copies .fetch w = some task) (platform : task.platform = .video name) :
      StepOutcome env s (.fetch w ti fault)
        ({ s with row := (tryRealtimeFetch env s.row task ti fault).row }.setCopy .fetch w none)
  | other (billing : Store) : StepOutcome env s (.other billing) { s with billing }

/-- **All that an event may do.** -/
theorem step_outcome (env : TaskEnv) (s : TaskSystem W) (e : TaskEvent W) :
    StepOutcome env s e (s.step env e) := by
  cases e with
  | load role w =>
    rw [step]
    split_ifs with hloads
    · exact .load role w hloads
    · exact .idle _
  | video w answer now fault f =>
    rw [step]
    split
    · exact .idle _
    rename_i task hcopy
    split
    · rename_i name hplatform
      exact .video w answer now fault f task name hcopy hplatform
    · exact .idle _
  | sweep w timeoutMinutes now fault f =>
    rw [step]
    split
    · exact .idle _
    · rename_i task hcopy
      exact .sweep w timeoutMinutes now fault f task hcopy
  | suno w item f =>
    rw [step]
    split
    · rename_i task hcopy hready
      split_ifs with hplatform hneeds
      · exact .suno w item f task hcopy hready hplatform hneeds
      · exact .idle _
      · exact .idle _
    · exact .idle _
  | sunoUpdate w fault =>
    rw [step]
    split
    · exact .idle _
    · rename_i save hdue
      exact .sunoUpdate w fault save hdue
  | failNull w fault =>
    rw [step]
    split
    · exact .idle _
    rename_i task hcopy
    split_ifs with hblank
    · exact .failNull w fault task hcopy hblank
    · exact .idle _
  | failChannel w failReason fault =>
    rw [step]
    split
    · exact .idle _
    · rename_i task hcopy
      exact .failChannel w failReason fault task hcopy
  | fetch w ti fault =>
    rw [step]
    split
    · exact .idle _
    rename_i task hcopy
    split
    · rename_i name hplatform
      exact .fetch w ti fault task name hcopy hplatform
    · exact .idle _
  | other billing => exact .other billing

theorem Values.origin_step {o : TaskOrigin} (h : s.Values fun t => t.origin = o)
    (e : TaskEvent W) : (s.step env e).Values fun t => t.origin = o := by
  -- Billing changes at most the quota, which is not part of the origin.
  have hP : ∀ (t : Task) (quota : ℤ), t.origin = o → { t with quota }.origin = o := fun _ _ ht => ht
  have hout := step_outcome env s e
  generalize s.step env e = s' at hout ⊢
  cases hout with
  | idle => exact h
  | other => exact ⟨h.row, h.copies, h.saves⟩
  | load =>
    apply h.setCopy
    intro t ht
    cases ht
    exact h.row
  | video w answer now fault f task _ copy =>
    have hp := (updateVideoSingleTask_outcome env s.row task answer now fault).stores
    obtain ⟨hrow, htask⟩ := h.origin_of_stores copy hp
    exact h.poll hP hrow htask f w
  | sweep _ timeoutMinutes now fault f task copy =>
    have hp := (sweepTimedOutTask_outcome s.row task timeoutMinutes now fault).stores
    obtain ⟨hrow, -⟩ := h.origin_of_stores copy hp
    exact (h.bill hP hrow f).setCopy (by simp)
  | suno w item f task copy =>
    have hp := updateSunoTask_stores s.row task item
    obtain ⟨hrow, htask⟩ := h.origin_of_stores copy hp
    have hpolled : (s.poll env w f (updateSunoTask s.row task item)).Values fun t => t.origin = o :=
      h.poll hP hrow htask f w
    refine ⟨hpolled.row, hpolled.copies, ?_⟩
    apply forall_update fun w' save _ => h.saves w' save
    intro save hsave
    cases hsave
    exact htask
  | sunoUpdate w fault save due =>
    have hrow := update_invariant (P := (·.origin = o)) h.row fault fun _ => h.saves w save due
    refine ⟨hrow, h.copies, ?_⟩
    apply forall_update fun w' save _ => h.saves w' save
    intro save hsave
    cases hsave
  | failNull _ fault =>
    exact ⟨bulkFail_invariant (P := (·.origin = o)) h.row fault none h.row, h.copies, h.saves⟩
  | failChannel _ reason fault =>
    exact ⟨bulkFail_invariant (P := (·.origin = o)) h.row fault reason h.row, h.copies, h.saves⟩
  | fetch w ti fault task _ copy =>
    apply Values.setCopy _ (by simp)
    refine ⟨?_, h.copies, h.saves⟩
    rcases tryRealtimeFetch_row env s.row task ti fault with hrow | ⟨-, hrow⟩ <;> rw [hrow]
    · exact h.row
    · exact h.copies .fetch w task copy

end TaskSystem

/-! ### The gate -/

def Polled.Once (p : Polled) (closed : Task → Prop) (row : Task) : Prop :=
  (p.billing = none ∧ (closed row → closed p.row)) ∨ (¬closed row ∧ closed p.row)

def Task.Done (t : Task) : Prop := t.status.isDone = true

theorem videoBilling_of_not_done {quota : ℤ} {taskResult : TaskInfo} {status : TaskStatus}
    (h : status.isDone = false) : videoBilling quota taskResult status = none := by
  cases status <;> first | rfl | cases h

theorem VideoOutcome.once {row task : Task} {p : Polled} (h : VideoOutcome row task p)
    (htask : task.status.isDone = false) : p.Once Task.Done row := by
  cases h with
  | ignored => exact .inl ⟨rfl, id⟩
  | finished _ _ _ done won =>
    refine .inr ⟨?_, done⟩
    rw [Task.Done, won, htask]
    simp
  | unguarded _ new _ _ quiet stored =>
    have hnew : new.status.isDone = false := by
      rcases quiet with h | h
      · exact h
      · rw [← h, htask]
    refine .inl ⟨videoBilling_of_not_done hnew, ?_⟩
    intro hrow
    rcases stored with rfl | ⟨hwon, rfl⟩
    · exact hrow
    · rw [Task.Done, hwon, htask] at hrow
      cases hrow

theorem SweepOutcome.once {row task : Task} {p : Polled} {closed : Task → Prop}
    (h : SweepOutcome row task p) (hopen : row.status = task.status → ¬closed row)
    (hfailed : ∀ t : Task, t.status = .failure → t.progress = "100%" → closed t) :
    p.Once closed row := by
  cases h with
  | ignored => exact .inl ⟨rfl, id⟩
  | failed new _ failure complete won => exact .inr ⟨hopen won, hfailed new failure complete⟩

namespace TaskSystem

variable {W : Type} {env : TaskEnv} {s : TaskSystem W} {closed : Task → Prop}

/-- It counts a billing call at most when it closes the gate, and never opens it. -/
def BillsOnce (closed : Task → Prop) (s s' : TaskSystem W) : Prop :=
  OnceStep (fun s => closed s.row) (fun s => s.calls.length) s s'

theorem BillsOnce.of_eq {s' : TaskSystem W} (hrow : s'.row = s.row) (hcalls : s'.calls = s.calls) :
    BillsOnce closed s s' := by
  refine .inl ⟨congrArg List.length hcalls, ?_⟩
  intro h
  rw [hrow]
  exact h

theorem bill_once (hclosed : ∀ t quota, closed { t with quota } ↔ closed t) {p : Polled}
    (h : p.Once closed s.row) (f : TaskFaults) : BillsOnce closed s (s.bill env f p).1 := by
  obtain ⟨⟨quota, hrow⟩, -, -, hcalls⟩ := bill_spec env s f p
  have hkept : closed (s.bill env f p).1.row ↔ closed p.row := by
    rw [hrow]
    exact hclosed p.row quota
  cases hbilling : p.billing with
  | none =>
    rw [hbilling] at hcalls
    refine .inl ⟨hcalls, fun hs => hkept.mpr ?_⟩
    rcases h with ⟨-, hkeep⟩ | ⟨hopen, -⟩
    · exact hkeep hs
    · exact absurd hs hopen
  | some =>
    rw [hbilling] at hcalls
    rcases h with ⟨hnone, -⟩ | ⟨hopen, hclose⟩
    · rw [hnone] at hbilling
      cases hbilling
    · exact .inr ⟨hopen, hkept.mpr hclose, hcalls⟩

/-! ### Video tasks -/

variable [DecidableEq W]

/-- No poll works on a copy that is final already, and no fetch opens a final row again. -/
def VideoSafe (env : TaskEnv) (s : TaskSystem W) : TaskEvent W → Prop
  | .video w _ _ _ _ => ∀ task ∈ s.copies .poll w, task.status.isDone = false
  | .fetch w ti _ => ∀ task ∈ s.copies .fetch w, s.row.status = task.status →
      s.row.status.isDone = true → (applyRealtimeResult env task ti).status.isDone = true
  | _ => True

instance (s : TaskSystem W) (e : TaskEvent W) : Decidable (s.VideoSafe env e) := by
  unfold VideoSafe
  split <;> infer_instance

def SweepsUnfinished (s : TaskSystem W) : Prop :=
  ∀ w task, s.copies .sweep w = some task → task.isUnfinished = true

theorem SweepsUnfinished.setCopy (h : s.SweepsUnfinished) {role : Role} {w : W}
    {task : Option Task} (htask : role = .sweep → ∀ t, task = some t → t.isUnfinished = true) :
    (s.setCopy role w task).SweepsUnfinished := by
  intro w' t ht
  rw [copies_setCopy] at ht
  split_ifs at ht with hset
  · exact htask hset.1.symm t ht
  · exact h w' t ht

omit [DecidableEq W] in
theorem SweepsUnfinished.bill (h : s.SweepsUnfinished) (f : TaskFaults) (p : Polled) :
    (s.bill env f p).1.SweepsUnfinished := by
  obtain ⟨-, -, hcopies, -⟩ := bill_spec env s f p
  unfold SweepsUnfinished
  rw [hcopies]
  exact h

/-- A sweep holds unfinished tasks only, as its query selects no others. -/
theorem SweepsUnfinished.step (h : s.SweepsUnfinished) (e : TaskEvent W) :
    (s.step env e).SweepsUnfinished := by
  have hout := step_outcome env s e
  generalize s.step env e = s' at hout ⊢
  cases hout with
  | idle | sunoUpdate | failNull | failChannel | other => exact h
  | load _ _ loads =>
    apply h.setCopy
    rintro rfl t ht
    cases ht
    simpa using loads
  | video | sweep => exact (h.bill _ _).setCopy (by simp)
  | suno w item f task =>
    have hpolled : (s.poll env w f (updateSunoTask s.row task item)).SweepsUnfinished :=
      (h.bill _ _).setCopy (by simp)
    exact hpolled
  | fetch => exact SweepsUnfinished.setCopy h (by simp)

/-- **A safe step on a video task bills at most when it finishes the row.** -/
theorem video_once {name : String} {o : TaskOrigin} (ho : o.platform = .video name)
    (horigin : s.Values fun t => t.origin = o) (hsweeps : s.SweepsUnfinished) {e : TaskEvent W}
    (hsafe : s.VideoSafe env e) : BillsOnce Task.Done s (s.step env e) := by
  have hclosed : ∀ (t : Task) (quota : ℤ), Task.Done { t with quota } ↔ t.Done := fun _ _ => Iff.rfl
  have hvideo : ∀ {t : Task}, t.origin = o → t.platform ≠ .suno := by
    rintro t rfl hsuno
    rw [show t.origin.platform = t.platform from rfl, hsuno] at ho
    cases ho
  have hout := step_outcome env s e
  generalize s.step env e = s' at hout ⊢
  cases hout with
  | idle | load | other => exact .of_eq rfl rfl
  | video _ answer now fault f task _ copy =>
    have honce := (updateVideoSingleTask_outcome env s.row task answer now
      fault).once (hsafe task copy)
    exact bill_once hclosed honce f
  | sweep w timeoutMinutes now fault f task copy =>
    have hopen : s.row.status = task.status → ¬s.row.Done := by
      intro hwon
      have hunfinished := hsweeps w task copy
      rw [Task.isUnfinished, Bool.and_eq_true, Bool.not_eq_true'] at hunfinished
      rw [Task.Done, hwon, hunfinished.2]
      simp
    have hfailed : ∀ t : Task, t.status = .failure → t.progress = "100%" → t.Done := by
      intro t hfailure _
      rw [Task.Done, hfailure]
      rfl
    have hswept := sweepTimedOutTask_outcome s.row task timeoutMinutes now fault
    exact bill_once hclosed (hswept.once hopen hfailed) f
  | suno w _ _ task copy _ platform =>
    -- A video task is not polled as a Suno task.
    exact absurd platform (hvideo (horigin.copies .poll w task copy))
  | sunoUpdate w _ save due => exact absurd save.isSuno (hvideo (horigin.saves w save due))
  | failNull _ fault => exact .inl ⟨rfl, fun h => bulkFail_invariant h fault none rfl⟩
  | failChannel _ reason fault => exact .inl ⟨rfl, fun h => bulkFail_invariant h fault reason rfl⟩
  | fetch _ ti fault task _ copy =>
    refine .inl ⟨rfl, ?_⟩
    intro hdone
    rcases tryRealtimeFetch_row env s.row task ti fault with h | ⟨hwon, h⟩ <;> rw [h]
    · exact hdone
    · exact hsafe task copy hwon hdone

/-! ### Suno tasks -/

/-- No worker is between the refund of the task and its `Update`. -/
def NoneRefunded (s : TaskSystem W) : Prop :=
  ∀ w, ∀ save ∈ s.saves w, save.refunded = false

instance [Fintype W] (s : TaskSystem W) : Decidable s.NoneRefunded :=
  Fintype.decidableForallFintype

/-- An item that refunds the task, and a sweep that wins, find the row unfinished and no refund that
is not stored.  The `Update` after a refund does not fail, and none opens a closed row. -/
def SunoSafe (s : TaskSystem W) : TaskEvent W → Prop
  | .suno w item _ => ∀ task ∈ s.copies .poll w, taskNeedsUpdate task item = true →
      sunoRefunds task item = true → s.row.isUnfinished = true ∧ s.NoneRefunded
  | .sunoUpdate w fault => ∀ save ∈ s.saves w, (save.refunded = true → fault = none) ∧
      (fault = none → s.row.isUnfinished = false → save.task.isUnfinished = false)
  | .sweep w _ _ _ _ => ∀ task ∈ s.copies .sweep w, s.row.status = task.status →
      s.row.isUnfinished = true ∧ s.NoneRefunded
  | _ => True

instance [Fintype W] (s : TaskSystem W) (e : TaskEvent W) : Decidable (s.SunoSafe e) := by
  unfold SunoSafe
  split <;> infer_instance

/-- The row is closed, or will be when a refund is stored. -/
def Refunded (s : TaskSystem W) : Prop :=
  s.row.isUnfinished = false ∨ ∃ w save, s.saves w = some save ∧ save.refunded = true

omit [DecidableEq W] in
theorem not_refunded (hopen : s.row.isUnfinished = true)
    (hnone : s.NoneRefunded) : ¬s.Refunded := by
  rintro (hclosed | ⟨w, save, hsave, hrefunded⟩)
  · rw [hopen] at hclosed
    cases hclosed
  · rw [hnone w save hsave] at hrefunded
    cases hrefunded

/-- It refunds at most when it closes the gate, and never opens it. -/
def RefundsOnce (s s' : TaskSystem W) : Prop :=
  OnceStep TaskSystem.Refunded (fun s => s.calls.length) s s'

omit [DecidableEq W] in
theorem RefundsOnce.of_row {s' : TaskSystem W} (hsaves : s'.saves = s.saves)
    (hcalls : s'.calls = s.calls)
    (hrow : s.row.isUnfinished = false → s'.row.isUnfinished = false) : RefundsOnce s s' := by
  refine .inl ⟨congrArg List.length hcalls, ?_⟩
  rintro (hclosed | hsaved)
  · exact .inl (hrow hclosed)
  · exact .inr (hsaves ▸ hsaved)

theorem sweep_refundsOnce {task : Task}
    (hsafe : s.row.status = task.status → s.row.isUnfinished = true ∧ s.NoneRefunded)
    (timeoutMinutes now : ℤ) (fault : Option Err) (f : TaskFaults) (w : W) :
    RefundsOnce s ((s.bill env f (sweepTimedOutTask s.row task timeoutMinutes now fault)).1.setCopy
      .sweep w none) := by
  have hswept := sweepTimedOutTask_outcome s.row task timeoutMinutes now fault
  generalize sweepTimedOutTask s.row task timeoutMinutes now fault = p at hswept ⊢
  obtain ⟨⟨quota, hrow⟩, -, -, hcalls⟩ := bill_spec env s f p
  have hsaves := saves_bill env s f p
  cases hswept with
  | ignored new =>
    refine .inl ⟨hcalls, ?_⟩
    rintro (hclosed | hsaved)
    · exact .inl (by rw [setCopy, hrow]; exact hclosed)
    · exact .inr (by rw [setCopy, hsaves]; exact hsaved)
  | failed new _ _ complete won =>
    obtain ⟨hopen, hnone⟩ := hsafe won
    have hgate : TaskSystem.Refunded ((s.bill env f ⟨new, new,
        if !task.isLegacy && task.quota ≠ 0 then some .refund else none⟩).1.setCopy
          .sweep w none) := by
      left
      rw [setCopy, hrow]
      simp [Task.isUnfinished, complete]
    split_ifs at hcalls hgate ⊢
    · exact .inr ⟨not_refunded hopen hnone, hgate, hcalls⟩
    · exact .inl ⟨hcalls, fun _ => hgate⟩

theorem suno_refundsOnce {task : Task} {item : SunoItem} (isSuno : task.platform = .suno) {w : W}
    (hready : s.saves w = none)
    (hsafe : sunoRefunds task item = true → s.row.isUnfinished = true ∧ s.NoneRefunded)
    (f : TaskFaults) :
    RefundsOnce s { s.poll env w f (updateSunoTask s.row task item) with
      saves := Function.update s.saves w (some (sunoSave task item isSuno)) } := by
  obtain ⟨⟨quota, hrow⟩, -, -, hbilled⟩ := bill_spec env s f (updateSunoTask s.row task item)
  have hcalls : (s.poll env w f (updateSunoTask s.row task item)).calls.length
      = s.calls.length + (if sunoRefunds task item then some TaskBilling.refund
        else none).toList.length := hbilled
  by_cases hrefunds : sunoRefunds task item = true
  · obtain ⟨hopen, hnone⟩ := hsafe hrefunds
    refine .inr ⟨not_refunded hopen hnone, .inr ⟨w, sunoSave task item isSuno, ?_, hrefunds⟩, ?_⟩
    · exact Function.update_self ..
    · rw [if_pos hrefunds] at hcalls
      exact hcalls
  rw [if_neg hrefunds] at hcalls
  refine .inl ⟨hcalls, ?_⟩
  rintro (hclosed | ⟨w', save, hsave, hrefunded⟩)
  · left
    show (s.bill env f (updateSunoTask s.row task item)).1.row.isUnfinished = false
    rw [hrow]
    exact hclosed
  · have hne : w' ≠ w := by
      rintro rfl
      rw [hready] at hsave
      cases hsave
    exact .inr ⟨w', save, (Function.update_of_ne hne ..).trans hsave, hrefunded⟩

theorem sunoUpdate_refundsOnce {w : W} {save : SunoSave} (hdue : s.saves w = some save)
    {fault : Option Err} (hstored : save.refunded = true → fault = none)
    (hkeep : fault = none → s.row.isUnfinished = false → save.task.isUnfinished = false) :
    RefundsOnce s { s with
      row := s.row.update fault save.task, saves := Function.update s.saves w none } := by
  refine .inl ⟨rfl, ?_⟩
  rintro (hclosed | ⟨w', save', hsave', hrefunded⟩)
  · left
    exact update_invariant (P := (·.isUnfinished = false)) hclosed fault fun hnone =>
      hkeep hnone hclosed
  by_cases hw : w' = w
  · -- The refund is stored, and the row is closed with it.
    subst hw
    obtain rfl := Option.some.inj (hdue.symm.trans hsave')
    rw [hstored hrefunded]
    exact .inl (save.finished hrefunded)
  · exact .inr ⟨w', save', (Function.update_of_ne hw ..).trans hsave', hrefunded⟩

/-- **A safe step on a Suno task refunds it at most when it closes the gate.** -/
theorem suno_once {o : TaskOrigin} (ho : o.platform = .suno)
    (horigin : s.Values fun t => t.origin = o) {e : TaskEvent W} (hsafe : s.SunoSafe e) :
    RefundsOnce s (s.step env e) := by
  -- Every copy is one of the same Suno task, so the video workers never see it.
  have hsuno : ∀ {role : Role} {w : W} {task : Task} {name : String},
      s.copies role w = some task → task.platform ≠ .video name := by
    intro role w task name hcopy hvideo
    have hplatform : task.platform = .suno := by
      rw [← ho, ← horigin.copies role w task hcopy]
      rfl
    rw [hvideo] at hplatform
    cases hplatform
  have hout := step_outcome env s e
  generalize s.step env e = s' at hout ⊢
  cases hout with
  | idle | load | other => exact .of_row rfl rfl id
  | video _ _ _ _ _ _ _ copy platform => exact absurd platform (hsuno copy)
  | sweep w timeoutMinutes now fault f task copy =>
    exact sweep_refundsOnce (hsafe task copy) timeoutMinutes now fault f w
  | suno w item f task copy ready platform needs =>
    exact suno_refundsOnce platform ready (hsafe task copy needs) f
  | sunoUpdate w fault save due =>
    obtain ⟨hstored, hkeep⟩ := hsafe save due
    exact sunoUpdate_refundsOnce due hstored hkeep
  | failNull _ fault =>
    exact .of_row rfl rfl fun h => bulkFail_invariant
      (P := (·.isUnfinished = false)) h fault none rfl
  | failChannel _ reason fault =>
    exact .of_row rfl rfl fun h => bulkFail_invariant (P := (·.isUnfinished = false))
      h fault reason rfl
  | fetch _ _ _ _ _ copy platform => exact absurd platform (hsuno copy)

/-! ### Whole runs -/

def Fresh (s : TaskSystem W) : Prop :=
  (∀ role w, s.copies role w = none) ∧ (∀ w, s.saves w = none) ∧ s.calls = []

omit [DecidableEq W] in
theorem Fresh.values (h : s.Fresh) : s.Values fun t => t.origin = s.row.origin := by
  refine ⟨rfl, ?_, ?_⟩
  · intro role w task hcopy
    rw [h.1] at hcopy
    cases hcopy
  · intro w save hsave
    rw [h.2.1] at hsave
    cases hsave

omit [DecidableEq W] in
theorem Fresh.sweepsUnfinished (h : s.Fresh) : s.SweepsUnfinished := by
  intro w task hcopy
  rw [h.1] at hcopy
  cases hcopy

end TaskSystem

/-- **A video task is billed once**, if no poll works on a copy that is final already, and no fetch
stores an unfinished status over a final one. -/
theorem videoTask_billedOnce {W : Type} [DecidableEq W] {s : TaskSystem W}
    {name : String} (hvideo : s.row.platform = .video name) (hfresh : s.Fresh)
    {es : List (TaskEvent W)} (hsafe : Guarded (step env) (TaskSystem.VideoSafe env) s es) :
    (es.foldl (step env) s).calls.length ≤ 1 := by
  have hinv : ∀ (t : TaskSystem W) (e : TaskEvent W),
      (t.Values fun v => v.origin = s.row.origin) ∧ t.SweepsUnfinished →
        ((t.step env e).Values fun v => v.origin = s.row.origin) ∧
          (t.step env e).SweepsUnfinished := by
    rintro t e ⟨horigin, hsweeps⟩
    exact ⟨horigin.origin_step e, hsweeps.step e⟩
  have hstep : ∀ (t : TaskSystem W) (e : TaskEvent W),
      (t.Values fun v => v.origin = s.row.origin) ∧ t.SweepsUnfinished → t.VideoSafe env e →
        TaskSystem.BillsOnce Task.Done t (t.step env e) := by
    rintro t e ⟨horigin, hsweeps⟩ he
    exact video_once hvideo horigin hsweeps he
  have hcount : s.calls.length = 0 := by rw [hfresh.2.2]; rfl
  exact Guarded.atMostOnce hinv hstep ⟨hfresh.values, hfresh.sweepsUnfinished⟩ hcount hsafe

def Task.sample (platform : TaskPlatform) : Task where
  taskId := "task_1"
  platform := platform
  userId := 1
  group := "default"
  channelId := 5
  quota := 10
  status := .inProgress
  submitTime := 2000000000
  progress := "30%"
  upstreamTaskId := "u"
  billingSource := .wallet

def TaskSystem.sample (platform : TaskPlatform) : TaskSystem (Fin 2) where
  billing := Store.empty
  row := .sample platform
  copies _ _ := none
  calls := []

def VideoAnswer.ofStatus (status : TaskStatus) : VideoAnswer :=
  .parsed { status } [] .unreadable

theorem videoTask_billedOnce_of_race : let es : List (TaskEvent (Fin 2)) :=
      [.load .poll 0, .load .poll 1, .video 0 (.ofStatus .success) 0 none {},
       .video 1 (.ofStatus .failure) 0 none {}]
    (es.foldl (step .sample) (.sample (.video "50"))).calls.length ≤ 1 ∧
      (es.foldl (step .sample) (.sample (.video "50"))).row.status = .success := by
  intro es
  have hsafe : Guarded (step .sample) (TaskSystem.VideoSafe .sample)
      (sample (.video "50")) es := by
    decide +kernel
  have hvideo : (sample (.video "50")).row.platform = .video "50" := rfl
  exact ⟨videoTask_billedOnce .sample hvideo ⟨fun _ _ => rfl, fun _ => rfl, rfl⟩ hsafe,
    by decide +kernel⟩

/-- A pass that lists the id of the task twice: the second poll finds its own copy failed and
refunds the 10 again. -/
theorem videoTask_refunded_twice : let es : List (TaskEvent (Fin 2)) :=
      [.load .poll 0, .video 0 (.ofStatus .failure) 0 none {},
       .video 0 (.ofStatus .failure) 0 none {}]
    let s := es.foldl (step .sample) (.sample (.video "50"))
    ¬s.calls.length ≤ 1 ∧ s.billing.userQuota 1 = 20 := by
  decide +kernel

def SunoItem.failed : SunoItem where
  status := .failure
  failReason := "bad prompt"

end TokensFlux
