import TokensFlux.Subscription.Basic

/-!
# Reset schedules and admin resets

GORM v2 ignores `Set("gorm:query_option", "FOR UPDATE")`, so the rows are read without a lock and
what is written later is computed from these copies.
-/

namespace TokensFlux

/-! ### What is written -/

inductive SubscriptionWrite
  | save (sub : UserSubscription)
  /-- `Updates` of `next_reset_time` and `last_reset_time`, where given. -/
  | columns (nextResetTime lastResetTime : Option ℤ)
deriving DecidableEq, Repr

variable (s : Store)

def Store.write (id : ℤ) : SubscriptionWrite → Store
  | .save sub => { s with subs := s.subs.insert id sub }
  | .columns next last =>
    match s.subs.lookup id with
    | none => s
    | some sub =>
      { s with
        subs := s.subs.insert id
          { sub with
            nextResetTime := next.getD sub.nextResetTime
            lastResetTime := last.getD sub.lastResetTime } }

/-- Its last reset, or its start. -/
def UserSubscription.periodStart (sub : UserSubscription) : ℤ :=
  if sub.lastResetTime ≤ 0 then sub.startTime else sub.lastResetTime

/-- A subscription without a start begins now. -/
def UserSubscription.syncBase (sub : UserSubscription) (now : ℤ) : ℤ :=
  if sub.periodStart ≤ 0 then now else sub.periodStart

variable (cal : Calendar)

def syncUserSubscriptionResetTime (sub : UserSubscription) (plan : SubscriptionPlan)
    (now : ℤ) : Option SubscriptionWrite :=
  if normalizeResetPeriod plan.quotaResetPeriod = .never then
    if sub.nextResetTime = 0 then none else some (.columns (some 0) none)
  else if 0 < sub.nextResetTime ∧ sub.nextResetTime ≤ now then
    (dueReset cal sub plan now).map .save
  else
    let next := calcNextResetTime cal (sub.syncBase now) plan sub.endTime
    if 0 < next ∧ next ≤ now then (dueReset cal sub plan now).map .save
    else
      let nextColumn := if sub.nextResetTime ≠ next then some next else none
      let lastColumn := if sub.lastResetTime ≤ 0 ∧ 0 < next then some (sub.syncBase now) else none
      if nextColumn = none ∧ lastColumn = none then none
      else some (.columns nextColumn lastColumn)

def resetUserSubscription (sub : UserSubscription) (plan : SubscriptionPlan)
    (now : ℤ) (advanceResetTime : Bool) : UserSubscription :=
  let sub := { sub with amountUsed := 0 }
  if advanceResetTime then
    let nextReset := calcNextResetTime cal now plan sub.endTime
    { sub with nextResetTime := nextReset, lastResetTime := if 0 < nextReset then now else 0 }
  else sub

/-! ### Transactions that read without a lock -/

/-- A sync for a plan is given the plan, one for a user looks the plan of each row up. -/
inductive SubscriptionTask
  | sync (plan : Option SubscriptionPlan)
  | reset (plan : SubscriptionPlan) (advanceResetTime : Bool)

structure SubscriptionJob where
  task : SubscriptionTask
  now : ℤ
  todo : List (ℤ × UserSubscription)
  writes : List (ℤ × SubscriptionWrite)

inductive SubscriptionCall
  | syncForUser (userId : ℤ)
  | syncForPlan (planId : ℤ) (plan : SubscriptionPlan)
  | adminResetUser (userId planId : ℤ) (advanceResetTime : Bool)
  | adminResetPlan (planId : ℤ) (advanceResetTime : Bool)

def Store.planSubscriptions (planId now : ℤ) : List (ℤ × UserSubscription) :=
  (s.subs.entries.map fun e => (e.1, e.2)).filter fun r =>
    r.2.planId = planId ∧ r.2.status = .active ∧ now < r.2.endTime

/-- `ORDER BY user_id ASC, end_time ASC, id ASC`. -/
def Store.orderedPlanSubscriptions (planId now : ℤ) : List (ℤ × UserSubscription) :=
  List.insertionSort (fun a b => a.2.userId < b.2.userId ∨ (a.2.userId = b.2.userId ∧
      (a.2.endTime < b.2.endTime ∨ (a.2.endTime = b.2.endTime ∧ a.1 ≤ b.1))))
    (s.planSubscriptions planId now)

/-- Up to the read of its rows; `planFault` and `select` are what the two queries meet. -/
def Store.openJob (now : ℤ) (planFault select : Option Err) :
    SubscriptionCall → Except Err SubscriptionJob
  | .syncForUser userId =>
    if userId ≤ 0 then .error "invalid userId"
    else
      match select with
      | some e => .error e
      -- The query has no `ORDER BY`; the order of the rows does not matter.
      | none => .ok ⟨.sync none, now, s.activeSubscriptions userId now, []⟩
  | .syncForPlan planId plan =>
    if planId ≤ 0 then .error "invalid plan reset sync args"
    else
      match select with
      | some e => .error e
      | none => .ok ⟨.sync (some plan), now, s.planSubscriptions planId now, []⟩
  | .adminResetUser userId planId advanceResetTime =>
    if userId ≤ 0 ∨ planId ≤ 0 then .error "invalid userId or planId"
    else
      match s.getSubscriptionPlanById planFault planId, select,
          (s.activeSubscriptions userId now).filter fun r => r.2.planId = planId with
      | .error e, _, _ => .error e
      | .ok _, some e, _ => .error e
      | .ok _, none, [] => .error "该用户没有有效的此套餐订阅"
      | .ok plan, none, rows => .ok ⟨.reset plan advanceResetTime, now, rows, []⟩
  | .adminResetPlan planId advanceResetTime =>
    if planId ≤ 0 then .error "invalid planId"
    else
      match s.getSubscriptionPlanById planFault planId, select with
      | .error e, _ => .error e
      | .ok _, some e => .error e
      | .ok plan, none =>
        .ok ⟨.reset plan advanceResetTime, now, s.orderedPlanSubscriptions planId now, []⟩

def SubscriptionJob.next (s : Store) (planFault : Option Err) (job : SubscriptionJob) :
    Except Err SubscriptionJob :=
  match job.todo with
  | [] => .ok job
  | (id, sub) :: todo =>
    match job.task with
    | .reset plan advanceResetTime =>
      let sub := resetUserSubscription cal sub plan job.now advanceResetTime
      .ok { job with todo, writes := job.writes ++ [(id, .save sub)] }
    | .sync given =>
      match given.elim (s.getSubscriptionPlanById planFault sub.planId) .ok with
      | .error e => .error e
      | .ok plan =>
        let write := syncUserSubscriptionResetTime cal sub plan job.now
        .ok { job with todo, writes := job.writes ++ write.toList.map fun w => (id, w) }

/-! ### Transactions that lock -/

/-- A row that is no longer due is left alone. -/
def Store.resetDueSubscription (f : TxFaults) (planFault : Option Err) (id now : ℤ) : Store :=
  match f.start, f.select, s.subs.lookup id with
  | none, none, some locked =>
    if 0 < locked.nextResetTime ∧ locked.nextResetTime ≤ now then
      match s.getSubscriptionPlanById planFault locked.planId with
      | .error _ => s
      | .ok plan =>
        match commitTx f.commit (maybeResetUserSubscriptionWithPlanTx cal s f.save id
          locked plan now) with
        | .error _ => s
        | .ok (_, s) => s
    else s
  | _, _, _ => s

def Store.refundedRecord (f : RefundFaults) (requestId : String) :
    Option SubscriptionPreConsumeRecord :=
  if trimSpace requestId = "" ∨ f.start ≠ none ∨ f.select ≠ none then none
  else
    (s.records.lookup requestId).filter fun record =>
      record.status = .consumed && decide (0 < record.preConsumed) &&
        (s.postConsumeUserSubscriptionDelta f.inner record.userSubscriptionId
          (-record.preConsumed)).isOk

end TokensFlux
